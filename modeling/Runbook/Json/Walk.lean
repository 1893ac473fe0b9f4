import Runbook.Json.Basic
import Runbook.Text.Path

/-!
# Walking over the texts of a value

`Json.texts` lists every text in a value with the path to it, in order. `Json.walk` puts another text in
the place of each and collects what there is to say about them.
-/

namespace Runbook.Json

mutual

/-- The texts in a value and the paths to them, in order. -/
def texts (path : String) : Json → List (String × String)
  | str s => [(path, s)]
  | record fields => fieldTexts path fields
  | list items => itemTexts path 0 items
  | _ => []

/-- `texts` for the items of a list from a position on. -/
def itemTexts (path : String) (position : Nat) : List Json → List (String × String)
  | [] => []
  | value :: rest => texts (Path.item path position) value ++ itemTexts path (position + 1) rest

/-- `texts` for the members of a record. -/
def fieldTexts (path : String) : List (String × Json) → List (String × String)
  | [] => []
  | (key, value) :: rest => texts (Path.member path key) value ++ fieldTexts path rest

end

variable {α : Type} (f : String → String → String × List α)

mutual

/-- The value with `f path s` in the place of each text `s`, and what `f` says about the texts. -/
def walk (path : String) : Json → Json × List α
  | str s => (str (f path s).1, (f path s).2)
  | record fields => (record (walkFields path fields).1, (walkFields path fields).2)
  | list items => (list (walkItems path 0 items).1, (walkItems path 0 items).2)
  | value => (value, [])

/-- `walk` for the items of a list from a position on. -/
def walkItems (path : String) (position : Nat) : List Json → List Json × List α
  | [] => ([], [])
  | value :: rest =>
    let (value, notes) := walk (Path.item path position) value
    let (values, more) := walkItems path (position + 1) rest
    (value :: values, notes ++ more)

/-- `walk` for the members of a record. -/
def walkFields (path : String) : List (String × Json) → List (String × Json) × List α
  | [] => ([], [])
  | (key, value) :: rest =>
    let (value, notes) := walk (Path.member path key) value
    let (values, more) := walkFields path rest
    ((key, value) :: values, notes ++ more)

end

end Runbook.Json
