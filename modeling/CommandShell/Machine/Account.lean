import CommandShell.ArgumentVector

/-!
# Accounts

The users that a machine knows, each with a home directory, and the file in which they are listed.
Main statement: the home directory of a user is that of an account with the user's name
(`homeOf?_mem`).
-/

namespace CommandShell.Machine

/-- A user of a machine. -/
structure Account where
  /-- The name. -/
  name : String
  /-- The number of the user. -/
  user : Nat
  /-- The number of the user's group. -/
  group : Nat
  /-- Who it is. -/
  comment : String
  /-- The home directory. -/
  home : String
  /-- The program that the user works with. -/
  program : String

namespace Account

/-- The program of users that cannot log in. -/
def noLogin : String := "/usr/sbin/nologin"

/-- A user that cannot log in and is called after what it is for. -/
def ofService (name : String) (user group : Nat) (home : String) : Account :=
  ⟨name, user, group, name, home, noLogin⟩

/-- The users that every machine knows. -/
def all : List Account := [
  ⟨"root", 0, 0, "root", "/root", "/bin/bash"⟩,
  ofService "daemon" 1 1 "/usr/sbin",
  ofService "bin" 2 2 "/bin",
  ofService "sys" 3 3 "/dev",
  ⟨"sync", 4, 65534, "sync", "/bin", "/bin/sync"⟩,
  ofService "games" 5 60 "/usr/games",
  ofService "man" 6 12 "/var/cache/man",
  ofService "lp" 7 7 "/var/spool/lpd",
  ofService "mail" 8 8 "/var/mail",
  ofService "news" 9 9 "/var/spool/news",
  ofService "uucp" 10 10 "/var/spool/uucp",
  ofService "proxy" 13 13 "/bin",
  ofService "www-data" 33 33 "/var/www",
  ofService "backup" 34 34 "/var/backups",
  ⟨"list", 38, 38, "Mailing List Manager", "/var/list", noLogin⟩,
  ⟨"irc", 39, 39, "ircd", "/run/ircd", noLogin⟩,
  ⟨"_apt", 42, 65534, "", "/nonexistent", noLogin⟩,
  ofService "nobody" 65534 65534 "/nonexistent"]

/-- The line about an account in the file in which they are listed. -/
def line (a : Account) : String :=
  String.intercalate ":"
    [a.name, "x", toString a.user, toString a.group, a.comment, a.home, a.program] ++ "\n"

/-- The file in which the accounts are listed. -/
def listing : String := String.join (all.map line)

/-- The home directory of a user. -/
def homeOf? (name : Bytes) : Option Bytes :=
  (all.find? fun a => utf8 a.name == name).map fun a => utf8 a.home

/-- The home directory of a user is that of an account with the user's name. -/
theorem homeOf?_mem {name home : Bytes} (h : homeOf? name = some home) :
    ∃ a ∈ all, utf8 a.name = name ∧ utf8 a.home = home := by
  obtain ⟨a, ha, hh⟩ := Option.map_eq_some_iff.1 h
  exact ⟨a, List.mem_of_find?_eq_some ha, by simpa using List.find?_some ha, hh⟩

end Account

end CommandShell.Machine
