import PandaOs.Abi.Basic
import PandaOs.Lib.Run
import PandaOs.Lib.Bytes
import PandaOs.Device.VirtioBlock
import PandaOs.Resource.Channel
import PandaOs.Proofs.ChannelDelivery
import PandaOs.Resource.SchemeProvider
import PandaOs.Proofs.SchemeRoundTrip
import PandaOs.Resource.Mailbox
import PandaOs.Proofs.MailboxEvents
import PandaOs.Syscall.UserPtr
import PandaOs.Kernel.HandleTable
import PandaOs.Proofs.HandleFreshness
import PandaOs.Syscall.Channel
import PandaOs.Proofs.ChannelRecv
import PandaOs.Kernel.Scheduler
import PandaOs.Kernel.SchedQueues
import PandaOs.Proofs.SyscallCompletion
import PandaOs.Proofs.UserAccessContext
import PandaOs.Compositor.Manager
import PandaOs.Graphics.Surface
import PandaOs.Proofs.BufferRelease
import PandaOs.Memory.Paging
import PandaOs.Memory.Mapping
import PandaOs.Process.Memory
import PandaOs.Resource.Buffer
import PandaOs.Syscall.Buffer
import PandaOs.Proofs.HeapLayout
import PandaOs.Proofs.BufferMapping
import PandaOs.Process.Elf
import PandaOs.Proofs.ElfLoad
import PandaOs.Lib.StateExcept
import PandaOs.Ext2.Disk
import PandaOs.Ext2.Inode
import PandaOs.Ext2.BlockMap
import PandaOs.Ext2.Dir
import PandaOs.Executor.AsyncMutex
import PandaOs.Ext2.Mount
import PandaOs.Proofs.Ext2Bitmap
import PandaOs.Proofs.Ext2DirBlocks
import PandaOs.Ext2.File
import PandaOs.Ext2.Ops
import PandaOs.Proofs.Ext2FileLeak
import PandaOs.Proofs.Ext2Interleave
import PandaOs.Device.Keyboard
import PandaOs.Proofs.KeyEvents
import PandaOs.Proofs.Ext2Arith
import PandaOs.Proofs.Ext2DirSlack
import PandaOs.Proofs.VfsResolve
import PandaOs.Compositor.Protocol
import PandaOs.Proofs.CompositorFrames
import PandaOs.Abi.SchemeProtocol
import PandaOs.Proofs.SchemeFrames
import PandaOs.Proofs.PathCanonical
import PandaOs.Lib.Cursor
import PandaOs.Lib.Window
import PandaOs.Collections.RingBuffer
import PandaOs.Proofs.RingBufferRefines
import PandaOs.Proofs.BufferRanges
import PandaOs.Proofs.ReaddirFrames
import PandaOs.Proofs.WindowBuffers
import PandaOs.Process.ElfParse
import PandaOs.Proofs.ElfParse
import PandaOs.Ext2.IndirectCache
import PandaOs.Proofs.Ext2IndexCache
import PandaOs.Vfs.TarFs
import PandaOs.Proofs.TarFsLookups
import PandaOs.Compositor.Render
import PandaOs.Compositor.Screen
import PandaOs.Proofs.CompositeFastPath
import PandaOs.Proofs.ScreenRuns
import PandaOs.Abi.Encoding
import PandaOs.Abi.Value
import PandaOs.Proofs.ValueCodec
import PandaOs.Abi.Terminal
import PandaOs.Proofs.TerminalFrames
import PandaOs.Proofs.ScreenRefines
import PandaOs.Lib.Keeps
import PandaOs.Userspace.Terminal
import PandaOs.Proofs.TerminalInput
import PandaOs.Proofs.TerminalKeys
import PandaOs.Proofs.TerminalRequests
