import Semogakelar.Fat32.Blocks
import Semogakelar.Fat32.Buffers
import Semogakelar.Fat32.Capacity
import Semogakelar.Fat32.FirstFit
import Semogakelar.Fat32.Remount
import Semogakelar.Fat32.Undo
import Semogakelar.Memory.Allocator
import Semogakelar.Process.FirstBoot
import Semogakelar.Process.Privacy
import Semogakelar.Process.Resumption
import Semogakelar.Shell.MainLoop
import Semogakelar.Shell.MvWalk
import Semogakelar.Shell.Removing
import Semogakelar.Shell.Sessions
import Semogakelar.Shell.Copying
import Semogakelar.Shell.CommandLine
import Semogakelar.Shell.Kill
import Semogakelar.Shell.Searching
import Semogakelar.Shell.Splitting
import Semogakelar.Shell.Walking
import Semogakelar.Terminal.Echo
import Semogakelar.Terminal.Numerals
import Semogakelar.Terminal.Clock
import Semogakelar.Machine.Booting
import Semogakelar.Machine.Files
import Semogakelar.Machine.Listing
import Semogakelar.Machine.Runs
