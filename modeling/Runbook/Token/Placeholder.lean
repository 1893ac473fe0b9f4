/-!
# Placeholders

A placeholder is what looks like a token: it opens with `${` and goes on to the next closing brace,
whatever stands between. A text that has placeholders which are not tokens was written in error.
-/

namespace Runbook

/-- The place of a placeholder: its first position and the one after its last. -/
structure Placeholder where
  start : Nat
  stop : Nat
  deriving DecidableEq, Repr

namespace Placeholder

mutual

/-- The placeholders from `position` on. -/
def scanFrom (position : Nat) : List Char → List Placeholder
  | [] => []
  | '$' :: '{' :: cs => closeFrom position (position + 2) cs
  | _ :: cs => scanFrom (position + 1) cs

/-- The placeholder that opened at `start`, if it is closed, and those after it. -/
def closeFrom (start position : Nat) : List Char → List Placeholder
  | [] => []
  | c :: cs =>
    if c = '}' then ⟨start, position + 1⟩ :: scanFrom (position + 1) cs
    else closeFrom start (position + 1) cs

end

/-- The placeholders of a text, from left to right. -/
def scan (text : String) : List Placeholder :=
  scanFrom 0 text.toList

/-- The text of a placeholder. -/
def slice (text : String) (p : Placeholder) : String :=
  String.ofList ((text.toList.take p.stop).drop p.start)

end Placeholder

end Runbook
