import EditHistory.Command

/-!
# Revisions

A revision is one bundle of commands of the history, with the time it was made and perhaps the text that the
document had after it.
-/

namespace EditHistory

/-- One bundle of commands. -/
structure Revision where
  id : String
  timestamp : Int
  commands : List Command
  /-- The recorded text of the document after this revision. -/
  snapshot : Option (List Char)

instance : Inhabited Revision := ⟨⟨"", 0, [], none⟩⟩

end EditHistory
