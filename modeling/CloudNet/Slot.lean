import CloudNet.Assembly.Populate
import CloudNet.Document.Xml.Tree

/-!
# Last-known-good slot

A slot publishes the newest model that was built and checked. A refresh that fails, or that reads
nothing, leaves it as it was (`snd_refresh_of_error`, `snd_refreshFrom_nothing`).
-/

namespace CloudNet

/-- The published model, and the hostnames that every model of the slot carries. -/
structure Slot where
  current : Option NetworkModel := none
  hostnames : HostnameCache := {}

namespace Slot

/-- The version of the published model, in words. -/
def currentVersion (s : Slot) : String := (s.current.map NetworkModel.version).getD "none"

/-- Build the model of a document and publish it. Where nothing is read the answer is the published
model, or one without entities, which is not published. -/
def refreshFrom (s : Slot) (d : Document) (extent : Extent) :
    Noted (Except Fault NetworkModel × Slot) :=
  if extent = .nothing then return (.ok (s.current.getD NetworkModel.empty), s)
  else do
    match ← NetworkModel.ofDocument d extent s.hostnames with
    | .ok m => return (.ok m, { s with current := some m })
    | .error fault =>
      Noted.tell (.modelKept s.currentVersion fault)
      return (.error fault, s)

/-- Build the model of a text and publish it. -/
def refresh (s : Slot) (settings : Xml.Settings) (text : String) (extent : Extent) :
    Noted (Except Fault NetworkModel × Slot) :=
  match Document.ofXml settings text with
  | .ok d => s.refreshFrom d extent
  | .error fault => return (.error fault, s)

/-! ## Laws -/

/-- Reading nothing publishes nothing. -/
theorem snd_refreshFrom_nothing (s : Slot) (d : Document) :
    (s.refreshFrom d .nothing).value.2 = s := rfl

/-- A refresh that fails leaves the slot as it was. -/
theorem snd_refresh_of_error {s : Slot} {settings : Xml.Settings} {text : String} {extent : Extent}
    {fault : Fault} (h : (s.refresh settings text extent).value.1 = .error fault) :
    (s.refresh settings text extent).value.2 = s := by
  unfold refresh at h ⊢
  split
  · next d hd =>
    simp only [hd, refreshFrom] at h ⊢
    split
    · rfl
    · next hn =>
      simp only [hn, if_false, Noted.value_bind] at h ⊢
      split <;> simp_all
  · rfl

end Slot

end CloudNet
