import Proctor.Shell.Text

/-!
# Users

The users that a machine knows, and the list that they stand in.
-/

set_option autoImplicit false

namespace Proctor

namespace Shell

structure User where
  name : String
  number : Nat
  group : Nat
  /-- The full name. -/
  title : String
  home : String
  /-- What is run when the user comes. -/
  program : String := "/usr/sbin/nologin"
  deriving DecidableEq, Repr, Inhabited

namespace User

def all : List User :=
  [⟨"root", 0, 0, "root", "/root", "/bin/bash"⟩,
   { name := "daemon", number := 1, group := 1, title := "daemon", home := "/usr/sbin" },
   { name := "bin", number := 2, group := 2, title := "bin", home := "/bin" },
   { name := "sys", number := 3, group := 3, title := "sys", home := "/dev" },
   ⟨"sync", 4, 65534, "sync", "/bin", "/bin/sync"⟩,
   { name := "games", number := 5, group := 60, title := "games", home := "/usr/games" },
   { name := "man", number := 6, group := 12, title := "man", home := "/var/cache/man" },
   { name := "lp", number := 7, group := 7, title := "lp", home := "/var/spool/lpd" },
   { name := "mail", number := 8, group := 8, title := "mail", home := "/var/mail" },
   { name := "news", number := 9, group := 9, title := "news", home := "/var/spool/news" },
   { name := "uucp", number := 10, group := 10, title := "uucp", home := "/var/spool/uucp" },
   { name := "proxy", number := 13, group := 13, title := "proxy", home := "/bin" },
   { name := "www-data", number := 33, group := 33, title := "www-data", home := "/var/www" },
   { name := "backup", number := 34, group := 34, title := "backup", home := "/var/backups" },
   { name := "list", number := 38, group := 38, title := "Mailing List Manager"
     home := "/var/list" },
   { name := "irc", number := 39, group := 39, title := "ircd", home := "/run/ircd" },
   { name := "_apt", number := 42, group := 65534, title := "", home := "/nonexistent" },
   { name := "nobody", number := 65534, group := 65534, title := "nobody", home := "/nonexistent" }]

def find? (name : Text) : Option User := all.find? fun u => u.name.toList = name

def line (u : User) : String :=
  ":".intercalate
    [u.name, "x", toString u.number, toString u.group, u.title, u.home, u.program] ++ "\n"

end User

end Shell

end Proctor
