import Intercept.Bytes

/-!
# Accounts

The users that a host system knows, and the tables in which it keeps them.
-/

namespace Intercept.Shell

structure Account where
  name : String
  user : Nat
  group : Nat
  home : String
  comment : String := name
  program : String := "/usr/sbin/nologin"
  deriving DecidableEq, Repr

/-- The users of a host system. -/
def accounts : List Account :=
  [{ name := "root", user := 0, group := 0, home := "/root", program := "/bin/bash" },
    { name := "daemon", user := 1, group := 1, home := "/usr/sbin" },
    { name := "bin", user := 2, group := 2, home := "/bin" },
    { name := "sys", user := 3, group := 3, home := "/dev" },
    { name := "sync", user := 4, group := 65534, home := "/bin", program := "/bin/sync" },
    { name := "games", user := 5, group := 60, home := "/usr/games" },
    { name := "man", user := 6, group := 12, home := "/var/cache/man" },
    { name := "lp", user := 7, group := 7, home := "/var/spool/lpd" },
    { name := "mail", user := 8, group := 8, home := "/var/mail" },
    { name := "news", user := 9, group := 9, home := "/var/spool/news" },
    { name := "uucp", user := 10, group := 10, home := "/var/spool/uucp" },
    { name := "proxy", user := 13, group := 13, home := "/bin" },
    { name := "www-data", user := 33, group := 33, home := "/var/www" },
    { name := "backup", user := 34, group := 34, home := "/var/backups" },
    { name := "list", user := 38, group := 38, home := "/var/list",
      comment := "Mailing List Manager" },
    { name := "irc", user := 39, group := 39, home := "/run/ircd", comment := "ircd" },
    { name := "_apt", user := 42, group := 65534, home := "/nonexistent", comment := "" },
    { name := "nobody", user := 65534, group := 65534, home := "/nonexistent" }]

/-- The home directory of a user. -/
def homeOf? (user : Bytes) : Option Bytes :=
  (accounts.find? fun account => Bytes.ofString account.name = user).map fun account =>
    Bytes.ofString account.home

/-- The groups of a host system, with their numbers. -/
def groups : List (String × Nat) :=
  [("root", 0), ("daemon", 1), ("bin", 2), ("sys", 3), ("adm", 4), ("tty", 5), ("disk", 6),
    ("lp", 7), ("mail", 8), ("news", 9), ("uucp", 10), ("man", 12), ("proxy", 13), ("kmem", 15),
    ("dialout", 20), ("fax", 21), ("voice", 22), ("cdrom", 24), ("floppy", 25), ("tape", 26),
    ("sudo", 27), ("audio", 29), ("dip", 30), ("www-data", 33), ("backup", 34), ("operator", 37),
    ("list", 38), ("irc", 39), ("src", 40), ("shadow", 42), ("utmp", 43), ("video", 44),
    ("sasl", 45), ("plugdev", 46), ("staff", 50), ("games", 60), ("users", 100),
    ("nogroup", 65534)]

/-- The table of users, a line each. -/
def accountTable : String :=
  String.join (accounts.map fun a =>
    s!"{a.name}:x:{a.user}:{a.group}:{a.comment}:{a.home}:{a.program}\n")

/-- The table of groups, a line each. -/
def groupTable : String := String.join (groups.map fun (name, number) => s!"{name}:x:{number}:\n")

end Intercept.Shell
