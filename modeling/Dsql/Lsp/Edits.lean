import Dsql.Lsp.Exactness
import Mathlib.Tactic

/-!
# Incremental edits

The server applies each change of a `didChange` notification to the rope the
previous one left.  The client edits its own text and sends the positions of
the bytes it replaced.
-/

namespace Dsql.Lsp

open Measured

structure Range where
  start : Position
  stop : Position
deriving DecidableEq

/-- A content change; without a range it is the whole text. -/
structure Change where
  range : Option Range
  text : Text

/-- A file's text; an evicted one has no rope. -/
structure SourceText (ropey : RopeLibrary) where
  rope : Option ropey.Rope

section

variable (ropey : RopeLibrary)

/-- `set_text`. -/
def SourceText.setText (text : Text) : SourceText ropey :=
  ⟨some (ropey.fromStr text)⟩

/-- `apply_edit`; the caller drops the error of an evicted rope. -/
def SourceText.applyEdit
    (source : SourceText ropey)
    (start stop : Nat)
    (replacement : Text) :
    Option (SourceText ropey) :=
  match source.rope with
  | none => some source
  | some rope => do
      let rope ← ropey.remove rope start stop
      let rope ← ropey.insert rope start replacement
      some ⟨some rope⟩

/-- One change of `did_change`; `none` is a panic. -/
def applyChange
    (source : SourceText ropey)
    (change : Change) :
    Option (SourceText ropey) :=
  match change.range, source.rope with
  | some range, some rope => do
      let start ← positionToByte ropey rope range.start
      let stop ← positionToByte ropey rope range.stop
      source.applyEdit ropey start stop change.text
  | some _, none => some source
  | none, _ => some (.setText ropey change.text)

/-- `did_change`. -/
def didChange
    (source : SourceText ropey)
    (changes : List Change) :
    Option (SourceText ropey) :=
  changes.foldlM (applyChange ropey) source

def runNotifications
    (source : SourceText ropey)
    (notifications : List (List Change)) :
    Option (SourceText ropey) :=
  notifications.foldlM (didChange ropey) source

end

/-- What a resident source reads. -/
def SourceText.Holds
    {ropey : RopeLibrary}
    (source : SourceText ropey)
    (text : Text) : Prop :=
  ∃ rope, source.rope = some rope ∧ ropey.toText rope = text

/-- A client's edit of its own text with the change it sends. -/
inductive ClientStep : Text → Change → Text → Prop
  | full {text replacement : Text} :
      ClientStep text ⟨none, replacement⟩ replacement
  | ranged {front middle back replacement : Text} {range : Range} :
      ¬ InsideTerminator front (middle ++ back) →
      ¬ InsideTerminator (front ++ middle) back →
      Addresses (front ++ (middle ++ back)) range.start (weight byteSize front) →
      Addresses (front ++ (middle ++ back)) range.stop (weight byteSize (front ++ middle)) →
      ClientStep (front ++ (middle ++ back)) ⟨some range, replacement⟩
        (front ++ (replacement ++ back))

/-- A run of a client whose ranged edits start from allowed texts. -/
inductive ClientRun (allowed : Text → Prop) : Text → List Change → Text → Prop
  | nil {text : Text} : ClientRun allowed text [] text
  | cons {text next final : Text} {change : Change} {changes : List Change} :
      (change.range.isSome → allowed text) →
      ClientStep text change next →
      ClientRun allowed next changes final →
      ClientRun allowed text (change :: changes) final

theorem withoutRange_append
    (front middle back : Text) :
    withoutRange (front ++ (middle ++ back)) (weight byteSize front)
      (weight byteSize (front ++ middle)) = some (front ++ back) := by
  have houter := splitAt_append byteSize byteSize_pos (front ++ middle) back
  rw [List.append_assoc] at houter
  rw [withoutRange, houter, Option.bind_some, splitAt_append byteSize byteSize_pos]
  rfl

theorem withInserted_append
    (front back replacement : Text) :
    withInserted (front ++ back) (weight byteSize front) replacement =
      some (front ++ (replacement ++ back)) := by
  rw [withInserted, splitAt_append byteSize byteSize_pos, Option.map_some, List.append_assoc]

section

variable {ropey : RopeLibrary} (laws : ropey.Laws)

include laws

theorem Clean.positionToByte_of_addresses
    {rope : ropey.Rope}
    {front back : Text}
    (h : Clean (ropey.toText rope))
    (htext : ropey.toText rope = front ++ back)
    (hinside : ¬ InsideTerminator front back)
    {position : Position}
    (haddresses : Addresses (ropey.toText rope) position (weight byteSize front)) :
    positionToByte ropey rope position = some (weight byteSize front) := by
  obtain ⟨line, inner, outer, before, after, hat⟩ := exists_boundaryAt htext
  exact Lsp.positionToByte_of_addresses laws hat hinside
    (h.line line hat.lineAt.mem).tail haddresses

/-- Replacing a range at the boundaries of characters replaces its text. -/
theorem applyEdit_holds
    {rope : ropey.Rope}
    {front middle back : Text}
    (htext : ropey.toText rope = front ++ (middle ++ back))
    (replacement : Text) :
    ∃ next, SourceText.applyEdit ropey ⟨some rope⟩ (weight byteSize front)
        (weight byteSize (front ++ middle)) replacement = some next ∧
      next.Holds (front ++ (replacement ++ back)) := by
  have hremove := laws.remove rope (weight byteSize front) (weight byteSize (front ++ middle))
  rw [htext, withoutRange_append] at hremove
  obtain ⟨removed, hremoved, hshort⟩ := Option.map_eq_some_iff.mp hremove
  have hinsert := laws.insert removed (weight byteSize front) replacement
  rw [hshort, withInserted_append] at hinsert
  obtain ⟨inserted, hinserted, hnext⟩ := Option.map_eq_some_iff.mp hinsert
  refine ⟨⟨some inserted⟩, ?_, inserted, rfl, hnext⟩
  simp only [SourceText.applyEdit, hremoved, hinserted, Option.bind_eq_bind, Option.bind_some]

/-- A change of a clean text makes of the server's rope what the client made
of its text. -/
theorem applyChange_of_clientStep
    {source : SourceText ropey}
    {text next : Text}
    {change : Change}
    (hsource : source.Holds text)
    (h : ClientStep text change next)
    (hclean : change.range.isSome → Clean text) :
    ∃ changed, applyChange ropey source change = some changed ∧ changed.Holds next := by
  obtain ⟨rope, hrope, htext⟩ := hsource
  obtain rfl : source = ⟨some rope⟩ := congrArg SourceText.mk hrope
  cases h with
  | full => exact ⟨_, rfl, _, rfl, laws.fromStr _⟩
  | @ranged front middle back replacement range hstart hstop hstartAt hstopAt =>
      have hcleanRope := hclean rfl
      rw [← htext] at hcleanRope hstartAt hstopAt
      have hbyte := hcleanRope.positionToByte_of_addresses laws htext hstart hstartAt
      have hend := hcleanRope.positionToByte_of_addresses laws
        (htext.trans (List.append_assoc front middle back).symm) hstop hstopAt
      obtain ⟨changed, hchanged, hholds⟩ := applyEdit_holds laws htext replacement
      refine ⟨changed, ?_, hholds⟩
      simp only [applyChange, hbyte, hend, Option.bind_eq_bind, Option.bind_some]
      exact hchanged

theorem didChange_of_clientRun
    {source : SourceText ropey}
    {text final : Text}
    {changes : List Change}
    (hsource : source.Holds text)
    (h : ClientRun Clean text changes final) :
    ∃ changed, didChange ropey source changes = some changed ∧ changed.Holds final := by
  induction h generalizing source with
  | nil => exact ⟨source, rfl, hsource⟩
  | cons hclean hstep hrun ih =>
      obtain ⟨changed, hchanged, hholds⟩ := applyChange_of_clientStep laws hsource hstep hclean
      obtain ⟨last, hlast, hfinal⟩ := ih hholds
      refine ⟨last, ?_, hfinal⟩
      rw [didChange, List.foldlM_cons, hchanged]
      exact hlast

end

/-- Notifications are their changes one after another. -/
theorem runNotifications_eq
    {ropey : RopeLibrary}
    (source : SourceText ropey)
    (notifications : List (List Change)) :
    runNotifications ropey source notifications =
      didChange ropey source notifications.flatten := by
  induction notifications generalizing source with
  | nil => rfl
  | cons changes rest ih =>
      unfold runNotifications didChange at ih ⊢
      rw [List.foldlM_cons, List.flatten_cons, List.foldlM_append]
      congr 1
      funext next
      exact ih next

theorem clean_accented : Clean ['a', 'é', 'b', '\r', '\n'] := by
  refine ⟨by decide, ?_⟩
  intro line hline
  have hlines : splitLines ['a', 'é', 'b', '\r', '\n'] = [['a', 'é', 'b', '\r', '\n'], []] := by
    decide
  rw [hlines] at hline
  rcases List.mem_pair.mp hline with rfl | rfl
  · exact ⟨by decide, by decide, fun h => absurd h (by decide)⟩
  · exact ⟨by decide, by decide, fun h => absurd h (by decide)⟩

end Dsql.Lsp
