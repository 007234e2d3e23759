/-
GuardCost/Utility/Table.lean

The utilities by their names.
-/
import GuardCost.Utility.Dump
import GuardCost.Utility.Find
import GuardCost.Utility.Record

namespace GuardCost.Utility

/-- A utility that cannot say what it is asked. -/
def failing (message : String) : Tool := fun _ _ => fatal 1 message

/-- The utility of a name. -/
def ofName? (name : String) : Option Tool :=
  match name with
  | "true" => some (ending 0)
  | "false" => some (ending 1)
  | "sync" => some (ending 0)
  | "echo" => some echo
  | "printf" => some printFormatted
  | "test" => some (test false)
  | "[" => some (test true)
  | "pwd" => some writeCurrent
  | "basename" => some writeLastNames
  | "dirname" => some writeDirectories
  | "seq" => some writeSequence
  | "factor" => some writeFactors
  | "uname" => some writeSystem
  | "arch" => some (writeFixed "x86_64")
  | "hostname" => some (writeFixed "localhost")
  | "whoami" => some (writeFixed "root")
  | "logname" => some (failing "no login name")
  | "users" => some (ending 0)
  | "who" => some (ending 0)
  | "groups" => some (writeFixed "root")
  | "nproc" => some (writeFixed "4")
  | "id" => some writeIdentity
  | "tty" => some writeTerminal
  | "sleep" => some sleepFor
  | "yes" => some repeatLine
  | "env" => some withEnvironment
  | "printenv" => some writeEnvironment
  | "timeout" => some withTimeLimit
  | "nohup" => some withoutHangup
  | "nice" => some (passOn [valued 'n' "adjustment"] (some "0"))
  | "setsid" => some (passOn (letters "cfw") none)
  | "stdbuf" => some (passOn (valuedLetters "ioe") none)
  | "which" => some writePlaces
  | "xargs" => some runForWords
  | "kill" => some sendSignal
  | "mkdir" => some makeDirectories
  | "rmdir" => some removeDirectories
  | "touch" => some touchAll
  | "truncate" => some truncateAll
  | "mktemp" => some makeFresh
  | "ln" => some makeLinks
  | "cp" => some copyAll
  | "install" => some installAll
  | "mv" => some moveAll
  | "rm" => some removeAll
  | "unlink" => some removeLink
  | "chmod" => some changeRights
  | "chown" => some changeOwner
  | "chgrp" => some changeOwner
  | "link" => some makeName
  | "cat" => some showFiles
  | "tac" => some showBackwards
  | "rev" => some showReversed
  | "head" => some showFirst
  | "tail" => some showLast
  | "wc" => some countAll
  | "tee" => some writeAlso
  | "nl" => some numberLines
  | "fold" => some foldLines
  | "expand" => some expandAll
  | "cut" => some cutColumns
  | "paste" => some pasteLines
  | "tr" => some exchangeChars
  | "sort" => some sortLines
  | "uniq" => some uniteLines
  | "comm" => some compareLines
  | "join" => some joinLines
  | "grep" => some (searchFiles (some .basic))
  | "egrep" => some (searchFiles (some .extended))
  | "fgrep" => some (searchFiles none)
  | "sed" => some Edit.editStreams
  | "expr" => some Expression.writeValue
  | "awk" => some Record.processRecords
  | "mawk" => some Record.processRecords
  | "date" => some writeDate
  | "ls" => some listFiles
  | "dir" => some listFiles
  | "readlink" => some showTargets
  | "realpath" => some showWholePaths
  | "stat" => some showFacts
  | "du" => some showRoom
  | "find" => some Find.findFiles
  | "cmp" => some Compare.compareBytes
  | "diff" => some Compare.showDifferences
  | "md5sum" => some (Digest.writeDigests Digest.ofFour)
  | "sha1sum" => some (Digest.writeDigests Digest.ofFive)
  | "sha256sum" => some (Digest.writeDigests Digest.ofEight)
  | "cksum" => some (Digest.writeChecksums Digest.checksumText true)
  | "sum" => some (Digest.writeChecksums Digest.oldChecksumText false)
  | "od" => some Dump.dumpBytes
  | "base64" => some (Dump.writeEncoded Dump.sixtyFour 6 4)
  | "base32" => some (Dump.writeEncoded Dump.thirtyTwo 5 8)
  | "split" => some Dump.splitFile
  | "dd" => some Dump.copyBlocks
  | "strings" => some Dump.showTexts
  | _ => none

end GuardCost.Utility
