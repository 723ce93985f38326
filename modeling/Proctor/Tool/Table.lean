import Proctor.Tool.Alike
import Proctor.Tool.Awk
import Proctor.Tool.Calendar
import Proctor.Tool.Characters
import Proctor.Tool.Copy
import Proctor.Tool.Difference
import Proctor.Tool.Dump
import Proctor.Tool.Editing
import Proctor.Tool.Encoding
import Proctor.Tool.Expression
import Proctor.Tool.Fields
import Proctor.Tool.Finding
import Proctor.Tool.Lines
import Proctor.Tool.Listing
import Proctor.Tool.Manage
import Proctor.Tool.Passing
import Proctor.Tool.Plain
import Proctor.Tool.Precedence
import Proctor.Tool.Running
import Proctor.Tool.Search
import Proctor.Tool.Sequence
import Proctor.Tool.Sorting

/-!
# The tools by name
-/

set_option autoImplicit false

namespace Proctor

namespace Tool

def table : List (String × Work Nat) :=
  [("[", Running.bracket),
   ("arch", Plain.constant "x86_64\n"),
   ("awk", Awk.work),
   ("base32", Encoding.base32),
   ("base64", Encoding.base64),
   ("basename", Plain.basename),
   ("cat", Passing.cat),
   ("chmod", Manage.chmod),
   ("cksum", Encoding.cksum),
   ("cmp", Difference.cmp),
   ("comm", Alike.comm),
   ("cp", Copy.cp),
   ("cut", Fields.cut),
   ("date", Calendar.date),
   ("dd", Dump.dd),
   ("diff", Difference.diff),
   ("dirname", Plain.dirname),
   ("echo", Plain.echo),
   ("egrep", Search.egrep),
   ("env", Running.env),
   ("expand", Lines.expand),
   ("expr", Expression.expr),
   ("factor", Precedence.factor),
   ("false", Plain.quiet 1),
   ("fgrep", Search.fgrep),
   ("find", Finding.find),
   ("fold", Lines.fold),
   ("grep", Search.grep),
   ("groups", Plain.constant "root\n"),
   ("head", Passing.head),
   ("hostname", Plain.constant "localhost\n"),
   ("id", Plain.id),
   ("join", Alike.join),
   ("kill", Running.kill),
   ("link", Copy.link),
   ("ln", Copy.ln),
   ("ls", Listing.ls),
   ("mawk", Awk.work),
   ("md5sum", Encoding.digests .md5),
   ("mkdir", Manage.mkdir),
   ("mkfifo", Manage.mkfifo),
   ("mktemp", Manage.mktemp),
   ("mv", Copy.mv),
   ("nice", Running.nice),
   ("nl", Lines.nl),
   ("nohup", Running.nohup),
   ("nproc", Plain.constant "1\n"),
   ("od", Dump.od),
   ("paste", Lines.paste),
   ("printenv", Plain.printenv),
   ("printf", Plain.printf),
   ("pwd", Plain.pwd),
   ("readlink", Listing.readlink),
   ("realpath", Listing.realpath),
   ("rev", Lines.rev),
   ("rm", Manage.rm),
   ("rmdir", Manage.rmdir),
   ("sed", Editing.sed),
   ("seq", Sequence.work),
   ("setsid", Running.setsid),
   ("sha1sum", Encoding.digests .sha1),
   ("sha224sum", Encoding.digests .sha224),
   ("sha256sum", Encoding.digests .sha256),
   ("sha384sum", Encoding.digests .sha384),
   ("sha512sum", Encoding.digests .sha512),
   ("sleep", Running.sleep),
   ("sort", Sorting.sort),
   ("split", Lines.split),
   ("stat", Listing.stat),
   ("stdbuf", Running.stdbuf),
   ("sum", Encoding.sum),
   ("sync", Plain.quiet 0),
   ("tac", Lines.tac),
   ("tail", Passing.tail),
   ("tee", Passing.tee),
   ("test", Running.test),
   ("timeout", Running.timeout),
   ("touch", Manage.touch),
   ("tr", Characters.tr),
   ("true", Plain.quiet 0),
   ("truncate", Manage.truncate),
   ("tsort", Precedence.tsort),
   ("tty", Plain.constant "not a tty\n" 1),
   ("uname", Plain.uname),
   ("unexpand", Lines.unexpand),
   ("uniq", Alike.uniq),
   ("unlink", Manage.unlink),
   ("wc", Lines.wc),
   ("which", Running.which),
   ("whoami", Plain.whoami),
   ("xargs", Running.xargs),
   ("yes", Plain.yes)]

end Tool

end Proctor
