import ClusterCost.Path
import ClusterCost.Settings.FromToml

/-!
# Settings files

A relative path to a catalog means a path as seen from the directory of the settings file that names it. No other setting
depends on where the file is.
-/
namespace ClusterCost

/-- Why a file gives no value: there is no text to read, or the text is refused. -/
inductive FileFault (ε : Type) where
  | unreadable
  | refused (cause : ε)
  deriving DecidableEq, Repr

def decodeFile {ε α : Type} (decode : String → Except ε α) (content : Option String) :
    Except (FileFault ε) α :=
  match content with
  | some text => (decode text).mapError .refused
  | none => .error .unreadable

/-- A file gives a value exactly if there is a text and the text holds it. -/
theorem decodeFile_eq_ok_iff {ε α : Type} {decode : String → Except ε α} {content : Option String} {a : α} :
    decodeFile decode content = .ok a ↔ ∃ text, content = some text ∧ decode text = .ok a := by
  unfold decodeFile
  cases content with
  | none => simp
  | some text =>
    simp only [Option.some.injEq, exists_eq_left']
    cases decode text with
    | ok read =>
      change Except.ok read = Except.ok a ↔ _
      simp
    | error cause =>
      change Except.error (FileFault.refused cause) = Except.ok a ↔ _
      simp

namespace Settings

def anchored (path : String) (s : Settings) : Settings :=
  { s with pricing := { s.pricing with catalog := s.pricing.catalog.map (Path.anchored path) } }

def ofFile (path : String) (content : Option String) : Except (FileFault Invalid) Settings :=
  (decodeFile ofToml content).map (anchored path)

end Settings

end ClusterCost
