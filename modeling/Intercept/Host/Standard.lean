import Intercept.Files.Calendar
import Intercept.Files.Path
import Intercept.Shell.Accounts
import Intercept.Shell.Tool.Table

/-!
# The standard file tree

What is found on a host system before anything has been done: its directories and devices, its
tools, and some of its tables.
-/

namespace Intercept.Host

/-- A place given by names with slashes between them. -/
def placeOf (path : String) : Files.Place :=
  (Bytes.splitAt Bytes.slash (Bytes.ofString path)).filter (· ≠ [])

/-- The directory to work in, which is empty at first. -/
def workPlace : Files.Place := placeOf "tmp/work"

def standardDirectories : List String :=
  ["boot", "dev", "dev/mqueue", "dev/pts", "dev/shm", "etc", "etc/alternatives", "etc/apt",
    "etc/default", "etc/init.d", "etc/opt", "etc/profile.d", "etc/skel", "home", "media", "mnt",
    "opt", "proc", "proc/1", "proc/self", "proc/self/fd", "proc/sys", "root", "run", "run/lock",
    "srv", "sys", "tmp", "tmp/work", "usr", "usr/bin", "usr/games", "usr/include", "usr/lib",
    "usr/lib64", "usr/libexec", "usr/local", "usr/local/bin", "usr/local/etc",
    "usr/local/games", "usr/local/include", "usr/local/lib", "usr/local/sbin", "usr/local/share",
    "usr/local/src", "usr/sbin", "usr/share", "usr/src", "var", "var/backups", "var/cache",
    "var/lib", "var/local", "var/log", "var/mail", "var/opt", "var/spool", "var/tmp"]

/-- Links and the paths that they lead to. -/
def standardLinks : List (String × String) :=
  [("bin", "usr/bin"), ("lib", "usr/lib"), ("lib64", "usr/lib64"), ("sbin", "usr/sbin"),
    ("dev/fd", "/proc/self/fd"), ("dev/stdin", "/proc/self/fd/0"),
    ("dev/stdout", "/proc/self/fd/1"), ("dev/stderr", "/proc/self/fd/2"),
    ("dev/ptmx", "pts/ptmx"), ("etc/mtab", "/proc/mounts"), ("proc/self/exe", "/usr/bin/dash"),
    ("proc/self/root", "/"), ("var/lock", "/run/lock"), ("var/run", "/run")]

def standardDevices : List (String × Files.Device) :=
  [("dev/null", .null), ("dev/zero", .zero), ("dev/full", .full), ("dev/random", .zero),
    ("dev/urandom", .zero), ("dev/tty", .terminal)]

/-- Files and what they hold. -/
def standardFiles : List (String × String) :=
  [("etc/passwd", Shell.accountTable), ("etc/group", Shell.groupTable),
    ("etc/hosts", "127.0.0.1\tlocalhost\n"), ("etc/hostname", "localhost\n"),
    ("etc/shells", "# /etc/shells: valid login shells\n/bin/sh\n/usr/bin/sh\n/bin/bash\n" ++
      "/usr/bin/bash\n/bin/rbash\n/usr/bin/rbash\n/usr/bin/dash\n"),
    ("etc/fstab", ""), ("etc/profile", ""), ("etc/bash.bashrc", ""), ("etc/environment", ""),
    ("etc/issue", ""), ("etc/os-release", ""), ("etc/debian_version", ""),
    ("etc/resolv.conf", ""), ("etc/nsswitch.conf", ""), ("etc/shadow", ""), ("etc/gshadow", ""),
    ("root/.bashrc", ""), ("root/.profile", ""), ("proc/cmdline", ""), ("proc/cpuinfo", ""),
    ("proc/filesystems", ""), ("proc/loadavg", ""), ("proc/meminfo", ""), ("proc/mounts", ""),
    ("proc/stat", ""), ("proc/uptime", ""), ("proc/version", ""), ("proc/self/cmdline", ""),
    ("proc/self/comm", ""), ("proc/self/environ", ""), ("proc/self/maps", ""),
    ("proc/self/mounts", ""), ("proc/self/stat", ""), ("proc/self/status", ""),
    ("proc/self/limits", "")]

/-- The tree of a host system. -/
def standardTree : Files.Tree :=
  let nodes : List (Files.Place × Files.Node) :=
    standardDirectories.map (fun path => (placeOf path, Files.Node.directory)) ++
    standardLinks.map (fun (path, target) => (placeOf path, .link (Bytes.ofString target))) ++
    standardDevices.map (fun (path, device) => (placeOf path, .device device)) ++
    standardFiles.map (fun (path, text) => (placeOf path, .file (Bytes.ofString text))) ++
    Shell.Tool.names.map (fun name => (placeOf "usr/bin" ++ [Bytes.ofString name], .tool name))
  let tree := Files.Tree.ofNodes nodes
  let dated (entry : Files.Entry) : Files.Entry :=
    { entry with attributes := { entry.attributes with time := Files.firstMoment } }
  let timed : Files.Tree :=
    { tree with entries := tree.entries.map dated, now := Files.firstMoment }
  ["tmp", "var/tmp", "dev/shm"].foldl (fun (tree : Files.Tree) path =>
    tree.setMode (placeOf path) 0o1777) timed

end Intercept.Host
