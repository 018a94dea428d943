import Mathlib.Tactic

/-!
# Edits of a list

An edit puts a text in place of the items from its start up to its stop.  A
set of edits has one result: the items between the edits with the texts in
their places.  Edits that are applied from the last one to the first give that
result; an insertion whose position was taken before the edits gives it only
where the edits before that position keep their length.
-/

namespace Dsql

structure Edit (α : Type) where
  start : Nat
  stop : Nat
  text : List α
deriving DecidableEq, Repr

namespace Edit

variable {α : Type}

def Before (first second : Edit α) : Prop :=
  first.stop ≤ second.start

instance (first second : Edit α) : Decidable (first.Before second) :=
  inferInstanceAs (Decidable (first.stop ≤ second.start))

/-- The edit at its place in the items as they are. -/
def apply (items : List α) (edit : Edit α) : List α :=
  items.take edit.start ++ edit.text ++ items.drop edit.stop

/-- The items from a position on with the edits made. -/
def rebuild (items : List α) : Nat → List (Edit α) → List α
  | position, [] => items.drop position
  | position, edit :: edits =>
      (items.take edit.start).drop position ++ edit.text ++
        rebuild items edit.stop edits

/-- Edits in ascending order that lie inside the items. -/
structure Ordered (length : Nat) (edits : List (Edit α)) : Prop where
  separated : edits.Pairwise Before
  proper : ∀ edit ∈ edits, edit.start ≤ edit.stop
  bounded : ∀ edit ∈ edits, edit.stop ≤ length

/-- The items with every edit made at its place. -/
def Edited (items : List α) (edits : List (Edit α)) (result : List α) : Prop :=
  ∃ ordered, ordered.Perm edits ∧ Ordered items.length ordered ∧
    result = rebuild items 0 ordered

section Ordered

variable {length : Nat}
variable {edit : Edit α}
variable {edits before after : List (Edit α)}

theorem Ordered.tail
    (h : Ordered length (edit :: edits)) :
    Ordered length edits where
  separated := (List.pairwise_cons.mp h.separated).2
  proper := fun other hmem => h.proper other (List.mem_cons_of_mem _ hmem)
  bounded := fun other hmem => h.bounded other (List.mem_cons_of_mem _ hmem)

theorem Ordered.left
    (h : Ordered length (before ++ after)) :
    Ordered length before where
  separated := (List.pairwise_append.mp h.separated).1
  proper := fun edit hmem => h.proper edit (List.mem_append_left _ hmem)
  bounded := fun edit hmem => h.bounded edit (List.mem_append_left _ hmem)

/-- Edits up to a position are edits of the items before it. -/
theorem Ordered.within
    (h : Ordered length edits)
    {position : Nat}
    (hposition : ∀ edit ∈ edits, edit.stop ≤ position) :
    Ordered position edits where
  separated := h.separated
  proper := h.proper
  bounded := hposition

end Ordered

/-! ## Applying edits from the end -/

/-- Items behind all edits are kept. -/
theorem rebuild_append_items
    {items tail : List α}
    {edits : List (Edit α)}
    (h : Ordered items.length edits)
    {position : Nat}
    (hposition : position ≤ items.length) :
    rebuild (items ++ tail) position edits = rebuild items position edits ++ tail := by
  induction edits generalizing position with
  | nil =>
      rw [rebuild, rebuild, List.drop_append_of_le_length hposition]
  | cons edit edits ih =>
      have hstop := h.bounded edit List.mem_cons_self
      have hstart := le_trans (h.proper edit List.mem_cons_self) hstop
      rw [rebuild, rebuild, ih h.tail hstop, List.take_append_of_le_length hstart,
        List.append_assoc (_ ++ _)]

/-- The last edit leaves the items before it to the others. -/
theorem rebuild_concat
    {items : List α}
    {edits : List (Edit α)}
    {last : Edit α}
    (h : Ordered items.length (edits ++ [last]))
    {position : Nat}
    (hposition : position ≤ last.start) :
    rebuild items position (edits ++ [last]) =
      rebuild (items.take last.start) position edits ++ last.text ++
        items.drop last.stop := by
  induction edits generalizing position with
  | nil => rfl
  | cons edit edits ih =>
      have hbefore : edit.stop ≤ last.start :=
        (List.pairwise_cons.mp h.separated).1 last
          (List.mem_append_right _ (List.mem_singleton_self last))
      have hstart : edit.start ≤ last.start :=
        le_trans (h.proper edit List.mem_cons_self) hbefore
      rw [List.cons_append, rebuild, rebuild, ih h.tail hbefore, List.take_take,
        Nat.min_eq_left hstart]
      simp only [List.append_assoc]

/-- The last edit leaves the places of the others inside the items. -/
theorem Ordered.apply_last
    {items : List α}
    {edits : List (Edit α)}
    {last : Edit α}
    (h : Ordered items.length (edits ++ [last])) :
    Ordered (last.apply items).length edits := by
  have hlast : last ∈ edits ++ [last] :=
    List.mem_append_right _ (List.mem_singleton_self last)
  have hstart : last.start ≤ items.length :=
    le_trans (h.proper last hlast) (h.bounded last hlast)
  refine h.left.within ?_
  intro edit hmem
  have hle : edit.stop ≤ last.start :=
    (List.pairwise_append.mp h.separated).2.2 edit hmem last
      (List.mem_singleton_self last)
  rw [apply, List.length_append, List.length_append, List.length_take_of_le hstart]
  omega

/-- Edits applied one after the other, from the last to the first. -/
theorem foldl_apply_reverse
    {items : List α}
    {edits : List (Edit α)}
    (h : Ordered items.length edits) :
    edits.reverse.foldl apply items = rebuild items 0 edits := by
  induction edits using List.reverseRecOn generalizing items with
  | nil => rfl
  | append_singleton edits last ih =>
      have hlast : last ∈ edits ++ [last] :=
        List.mem_append_right _ (List.mem_singleton_self last)
      have hstart : last.start ≤ items.length :=
        le_trans (h.proper last hlast) (h.bounded last hlast)
      have hlength : (items.take last.start).length = last.start :=
        List.length_take_of_le hstart
      have hbefore : ∀ edit ∈ edits, edit.stop ≤ last.start := by
        intro edit hmem
        exact (List.pairwise_append.mp h.separated).2.2 edit hmem last
          (List.mem_singleton_self last)
      have hwithin : Ordered (items.take last.start).length edits := by
        rw [hlength]
        exact h.left.within hbefore
      rw [List.reverse_append, List.reverse_singleton, List.singleton_append,
        List.foldl_cons, ih h.apply_last, rebuild_concat h (Nat.zero_le _), apply,
        List.append_assoc, rebuild_append_items hwithin (Nat.zero_le _),
        List.append_assoc]

/-! ## A position between the edits -/

/-- The edits on both sides of a position are made independently. -/
theorem rebuild_append
    {items : List α}
    {before after : List (Edit α)}
    {position : Nat}
    (hposition : position ≤ items.length)
    (h : Ordered position before)
    (hafter : ∀ edit ∈ after, position ≤ edit.start)
    {start : Nat}
    (hstart : start ≤ position) :
    rebuild items start (before ++ after) =
      rebuild (items.take position) start before ++ rebuild items position after := by
  induction before generalizing start with
  | nil =>
      rw [List.nil_append, rebuild]
      cases after with
      | nil =>
          rw [rebuild, rebuild]
          conv_lhs => rw [← List.take_append_drop position items]
          refine List.drop_append_of_le_length ?_
          rw [List.length_take_of_le hposition]
          exact hstart
      | cons edit after =>
          have hle := hafter edit List.mem_cons_self
          rw [rebuild, rebuild, ← List.append_assoc, ← List.append_assoc]
          congr 2
          have hsplit : items.take edit.start =
              items.take position ++ (items.take edit.start).drop position := by
            conv_lhs => rw [← List.take_append_drop position (items.take edit.start)]
            rw [List.take_take, Nat.min_eq_left hle]
          conv_lhs => rw [hsplit]
          refine List.drop_append_of_le_length ?_
          rw [List.length_take_of_le hposition]
          exact hstart
  | cons edit before ih =>
      have hstop := h.bounded edit List.mem_cons_self
      have hproper := h.proper edit List.mem_cons_self
      rw [List.cons_append, rebuild, rebuild, ih h.tail hstop, List.take_take,
        Nat.min_eq_left (le_trans hproper hstop), List.append_assoc (_ ++ _)]

def replacedLength (edits : List (Edit α)) : Nat :=
  (edits.map (fun edit => edit.stop - edit.start)).sum

def textLength (edits : List (Edit α)) : Nat :=
  (edits.map (fun edit => edit.text.length)).sum

/-- Each edit changes the length by its text. -/
theorem length_rebuild
    {items : List α}
    {edits : List (Edit α)}
    (h : Ordered items.length edits)
    {position : Nat}
    (hposition : position ≤ items.length)
    (hfirst : ∀ edit ∈ edits, position ≤ edit.start) :
    position + (rebuild items position edits).length + replacedLength edits =
      items.length + textLength edits := by
  induction edits generalizing position with
  | nil =>
      rw [rebuild, List.length_drop]
      simp only [replacedLength, textLength, List.map_nil, List.sum_nil]
      omega
  | cons edit edits ih =>
      have hstop := h.bounded edit List.mem_cons_self
      have hproper := h.proper edit List.mem_cons_self
      have hstart := hfirst edit List.mem_cons_self
      have hrest := ih h.tail hstop (List.pairwise_cons.mp h.separated).1
      simp only [replacedLength, textLength, List.map_cons, List.sum_cons, rebuild,
        List.length_append, List.length_drop, List.length_take] at hrest ⊢
      omega

/-! ## The order of the edits -/

/-- An edit of no items does not share its place with another such edit. -/
def EmptyUnique (edits : List (Edit α)) : Prop :=
  ∀ first ∈ edits, ∀ second ∈ edits,
    first.start = first.stop → second.start = second.stop →
      first.start = second.start → first = second

/-- Edits have one order. -/
theorem Ordered.eq_of_perm
    {length : Nat}
    {first second : List (Edit α)}
    (hfirst : Ordered length first)
    (hsecond : Ordered length second)
    (hunique : EmptyUnique first)
    (hperm : first.Perm second) :
    first = second := by
  refine hperm.eq_of_pairwise ?_ hfirst.separated hsecond.separated
  intro left right hleft hright hbefore hafter
  have hbefore : left.stop ≤ right.start := hbefore
  have hafter : right.stop ≤ left.start := hafter
  have hleftProper := hfirst.proper left hleft
  have hrightProper := hsecond.proper right hright
  have hmem : right ∈ first := hperm.mem_iff.mpr hright
  exact hunique left hleft right hmem (by omega) (by omega) (by omega)

/-- The order in which edits are given does not matter. -/
theorem edited_perm
    {items : List α}
    {first second : List (Edit α)}
    (hperm : first.Perm second)
    {result : List α} :
    Edited items first result ↔ Edited items second result := by
  constructor
  · rintro ⟨ordered, hordered, h⟩
    exact ⟨ordered, hordered.trans hperm, h⟩
  · rintro ⟨ordered, hordered, h⟩
    exact ⟨ordered, hordered.trans hperm.symm, h⟩

/-- The result of a set of edits is determined by any order of them. -/
theorem edited_iff
    {items : List α}
    {edits ordered : List (Edit α)}
    (hordered : Ordered items.length ordered)
    (hunique : EmptyUnique ordered)
    (hperm : ordered.Perm edits)
    {result : List α} :
    Edited items edits result ↔ result = rebuild items 0 ordered := by
  constructor
  · rintro ⟨other, hother, hotherOrdered, rfl⟩
    rw [hordered.eq_of_perm hotherOrdered hunique (hperm.trans hother.symm)]
  · rintro rfl
    exact ⟨ordered, hperm, hordered, rfl⟩

/-! ## Inserting at a position that was taken before the edits -/

section Insertion

variable {items : List α}
variable {ordered : List (Edit α)}
variable {position : Nat}

def insertion (position : Nat) (block : List α) : Edit α :=
  ⟨position, position, block⟩

/-- No edit replaces items on both sides of the position. -/
def Apart (position : Nat) (edits : List (Edit α)) : Prop :=
  ∀ edit ∈ edits, edit.stop ≤ position ∨ position ≤ edit.start

/-- The edits in front of the position. -/
def early (position : Nat) (edits : List (Edit α)) : List (Edit α) :=
  edits.filter (fun edit => decide (edit.stop ≤ position))

/-- The position is still where it was, or it is the end and the edits do not
lengthen what is before it. -/
structure Settled
    (length position : Nat)
    (edits : List (Edit α)) : Prop where
  apart : Apart position edits
  level :
    textLength (early position edits) = replacedLength (early position edits) ∨
      (position = length ∧
        textLength (early position edits) ≤ replacedLength (early position edits))

theorem textLength_perm
    {first second : List (Edit α)}
    (h : first.Perm second) :
    textLength first = textLength second :=
  (h.map _).sum_eq

theorem replacedLength_perm
    {first second : List (Edit α)}
    (h : first.Perm second) :
    replacedLength first = replacedLength second :=
  (h.map _).sum_eq

/-- The order in which edits are given does not matter. -/
theorem settled_perm
    {length position : Nat}
    {first second : List (Edit α)}
    (hperm : first.Perm second) :
    Settled length position first ↔ Settled length position second := by
  have hearly : (early position first).Perm (early position second) :=
    hperm.filter _
  have happart : Apart position first ↔ Apart position second := by
    unfold Apart
    simp only [hperm.mem_iff]
  constructor
  · rintro ⟨hfirst, hlevel⟩
    rw [textLength_perm hearly, replacedLength_perm hearly] at hlevel
    exact ⟨happart.mp hfirst, hlevel⟩
  · rintro ⟨hsecond, hlevel⟩
    rw [← textLength_perm hearly, ← replacedLength_perm hearly] at hlevel
    exact ⟨happart.mpr hsecond, hlevel⟩

/-- Edits apart from a position are those before it and then those after
it. -/
theorem Ordered.split
    {length : Nat}
    (h : Ordered length ordered)
    (hwidth : ∀ edit ∈ ordered, edit.start < edit.stop)
    (hapart : Apart position ordered) :
    ∃ after, ordered = early position ordered ++ after ∧
      ∀ edit ∈ after, position ≤ edit.start := by
  induction ordered with
  | nil => exact ⟨[], rfl, fun edit hmem => absurd hmem List.not_mem_nil⟩
  | cons edit edits ih =>
      by_cases hstop : edit.stop ≤ position
      · obtain ⟨after, hsplit, hafter⟩ := ih h.tail
          (fun other hmem => hwidth other (List.mem_cons_of_mem _ hmem))
          (fun other hmem => hapart other (List.mem_cons_of_mem _ hmem))
        refine ⟨after, ?_, hafter⟩
        rw [early, List.filter_cons, if_pos (decide_eq_true hstop), ← early,
          List.cons_append, ← hsplit]
      · have hall : ∀ other ∈ edit :: edits, position ≤ other.start := by
          have hstart := (hapart edit List.mem_cons_self).resolve_left hstop
          intro other hmem
          rcases List.mem_cons.mp hmem with rfl | hmem
          · exact hstart
          · have hproper := h.proper edit List.mem_cons_self
            have hbefore : edit.stop ≤ other.start :=
              (List.pairwise_cons.mp h.separated).1 other hmem
            omega
        refine ⟨edit :: edits, ?_, hall⟩
        have hnone : early position (edit :: edits) = [] := by
          refine List.filter_eq_nil_iff.mpr ?_
          intro other hmem hle
          have hle := of_decide_eq_true hle
          have hstart := hall other hmem
          have hpositive := hwidth other hmem
          omega
        rw [hnone, List.nil_append]

/-- An insertion among edits has its place only if it is apart from them. -/
theorem apart_of_edited
    {block result : List α}
    {edits : List (Edit α)}
    (hwidth : ∀ edit ∈ edits, edit.start < edit.stop)
    (h : Edited items (insertion position block :: edits) result) :
    Apart position edits := by
  obtain ⟨ordered, hperm, hordered, -⟩ := h
  intro edit hmem
  have hsymmetric : Std.Symm (fun first second : Edit α =>
      first.Before second ∨ second.Before first) :=
    ⟨fun _ _ h => h.symm⟩
  have hpair : ordered.Pairwise (fun first second =>
      first.Before second ∨ second.Before first) :=
    hordered.separated.imp (fun h => .inl h)
  have hne : edit ≠ insertion position block := by
    rintro rfl
    exact absurd (hwidth _ hmem) (lt_irrefl position)
  exact hpair.forall (hperm.mem_iff.mpr (List.mem_cons_of_mem _ hmem))
    (hperm.mem_iff.mpr List.mem_cons_self) hne

/-- What stands on both sides of the position once the edits are made. -/
theorem edited_insertion_iff
    {block result : List α}
    {after : List (Edit α)}
    (hordered : Ordered items.length ordered)
    (hwidth : ∀ edit ∈ ordered, edit.start < edit.stop)
    (hposition : position ≤ items.length)
    (hsplit : ordered = early position ordered ++ after)
    (hafter : ∀ edit ∈ after, position ≤ edit.start) :
    Edited items (insertion position block :: ordered) result ↔
      result = rebuild (items.take position) 0 (early position ordered) ++ block ++
        rebuild items position after := by
  have hearly : ∀ edit ∈ early position ordered, edit.stop ≤ position :=
    fun edit hmem => of_decide_eq_true (List.mem_filter.mp hmem).2
  have hmem : ∀ edit ∈ early position ordered ++ insertion position block :: after,
      edit ∈ ordered ∨ edit = insertion position block := by
    intro edit hmem
    rw [hsplit]
    rcases List.mem_append.mp hmem with hmem | hmem
    · exact .inl (List.mem_append_left _ hmem)
    · rcases List.mem_cons.mp hmem with rfl | hmem
      · exact .inr rfl
      · exact .inl (List.mem_append_right _ hmem)
  have hseparated := hsplit ▸ hordered.separated
  obtain ⟨hleft, hright, hcross⟩ := List.pairwise_append.mp hseparated
  have hall : Ordered items.length
      (early position ordered ++ insertion position block :: after) := by
    refine ⟨List.pairwise_append.mpr ⟨hleft, List.pairwise_cons.mpr ⟨?_, hright⟩, ?_⟩,
      ?_, ?_⟩
    · exact fun edit hmem => hafter edit hmem
    · intro edit hedit other hother
      rcases List.mem_cons.mp hother with rfl | hother
      · exact hearly edit hedit
      · exact hcross edit hedit other hother
    · intro edit hedit
      rcases hmem edit hedit with hmem | rfl
      · exact hordered.proper edit hmem
      · exact le_refl position
    · intro edit hedit
      rcases hmem edit hedit with hmem | rfl
      · exact hordered.bounded edit hmem
      · exact hposition
  have hunique : EmptyUnique
      (early position ordered ++ insertion position block :: after) := by
    intro first hfirst second hsecond hempty hempty' _
    rcases hmem first hfirst with hfirst | rfl
    · exact absurd hempty (Nat.ne_of_lt (hwidth first hfirst))
    · rcases hmem second hsecond with hsecond | rfl
      · exact absurd hempty' (Nat.ne_of_lt (hwidth second hsecond))
      · rfl
  have hperm : (early position ordered ++ insertion position block :: after).Perm
      (insertion position block :: ordered) := by
    conv_rhs => rw [hsplit]
    exact List.perm_middle
  rw [edited_iff hall hunique hperm,
    rebuild_append hposition
      ((hsplit ▸ hordered : Ordered items.length _).left.within hearly)
      (fun edit hedit => ?_) (Nat.zero_le _)]
  · simp only [rebuild, insertion, List.drop_take, Nat.sub_self, List.take_zero,
      List.nil_append, List.append_assoc]
  · rcases List.mem_cons.mp hedit with rfl | hedit
    · exact le_refl position
    · exact hafter edit hedit

end Insertion

/-! ## Inserting at a displaced position -/

/-- A text that begins with an item which does not occur in its tail cannot be
exchanged with a shorter text in front of it. -/
theorem append_ne_append
    {front tail moved : List α}
    (first : α)
    (hne : moved ≠ [])
    (hlength : moved.length ≤ tail.length)
    (hfirst : (front ++ tail).head? = some first)
    (hfresh : first ∉ tail) :
    moved ++ (front ++ tail) ≠ (front ++ tail) ++ moved := by
  intro heq
  have hblock : moved.length ≤ (front ++ tail).length := by
    rw [List.length_append]
    omega
  have hprefix : moved <+: front ++ tail := by
    refine List.prefix_of_prefix_length_le ?_ (List.prefix_append _ moved) hblock
    rw [← heq]
    exact List.prefix_append moved _
  have hsuffix : moved <:+ tail := by
    refine List.suffix_of_suffix_length_le ?_
      ((List.suffix_append front tail).trans (List.suffix_append moved _)) hlength
    rw [heq]
    exact List.suffix_append _ moved
  obtain ⟨head, rest, rfl⟩ := List.exists_cons_of_ne_nil hne
  obtain ⟨remaining, hremaining⟩ := hprefix
  rw [← hremaining] at hfirst
  cases hfirst
  exact hfresh (hsuffix.subset List.mem_cons_self)

/-- Inserted at a position, a text that cannot be exchanged with what is moved
stands between two texts only if that position is the border, or lies behind
everything. -/
theorem insert_eq_iff
    {left right block : List α}
    {position : Nat}
    (hblock : ∀ moved : List α, moved ≠ [] →
      moved.length ≤ (left ++ right).length → moved ++ block ≠ block ++ moved) :
    (left ++ right).take position ++ block ++ (left ++ right).drop position =
        left ++ block ++ right ↔
      position = left.length ∨ (right = [] ∧ left.length ≤ position) := by
  rcases Nat.lt_trichotomy position left.length with hlt | heq | hgt
  · have htake : (left ++ right).take position = left.take position :=
      List.take_append_of_le_length (le_of_lt hlt)
    have hdrop : (left ++ right).drop position = left.drop position ++ right :=
      List.drop_append_of_le_length (le_of_lt hlt)
    rw [htake, hdrop]
    constructor
    · intro h
      exfalso
      have hmoved : left.drop position ≠ [] := by
        intro hnil
        have := List.drop_eq_nil_iff.mp hnil
        omega
      refine hblock (left.drop position) hmoved ?_ ?_
      · rw [List.length_drop, List.length_append]
        omega
      · conv_rhs at h => rw [← List.take_append_drop position left]
        simp only [List.append_assoc] at h
        have hcancel := List.append_cancel_left h
        simp only [← List.append_assoc] at hcancel
        exact (List.append_cancel_right hcancel).symm
    · rintro (rfl | ⟨-, hle⟩)
      · exact absurd hlt (lt_irrefl _)
      · omega
  · subst heq
    rw [List.take_left, List.drop_left]
    exact ⟨fun _ => .inl rfl, fun _ => rfl⟩
  · obtain ⟨surplus, rfl⟩ := Nat.exists_eq_add_of_lt hgt
    have htake : (left ++ right).take (left.length + surplus + 1) =
        left ++ right.take (surplus + 1) := by
      rw [Nat.add_assoc, List.take_length_add_append]
    have hdrop : (left ++ right).drop (left.length + surplus + 1) =
        right.drop (surplus + 1) := by
      rw [Nat.add_assoc, List.drop_length_add_append]
    rw [htake, hdrop]
    constructor
    · intro h
      refine .inr ⟨?_, by omega⟩
      by_contra hright
      have hmoved : right.take (surplus + 1) ≠ [] := by
        intro hnil
        rcases List.take_eq_nil_iff.mp hnil with hzero | hnil
        · omega
        · exact hright hnil
      refine hblock (right.take (surplus + 1)) hmoved ?_ ?_
      · rw [List.length_take, List.length_append]
        omega
      · conv_rhs at h => rw [← List.take_append_drop (surplus + 1) right]
        simp only [List.append_assoc] at h
        have hcancel := List.append_cancel_left h
        simp only [← List.append_assoc] at hcancel
        exact List.append_cancel_right hcancel
    · rintro (heq | ⟨rfl, -⟩)
      · omega
      · simp only [List.take_nil, List.drop_nil, List.append_nil]

section Displaced

variable {items : List α}
variable {ordered after : List (Edit α)}
variable {position : Nat}

/-- What the edits before a position do to its distance. -/
theorem length_early
    (hordered : Ordered items.length ordered)
    (hposition : position ≤ items.length)
    (hsplit : ordered = early position ordered ++ after) :
    (rebuild (items.take position) 0 (early position ordered)).length +
        replacedLength (early position ordered) =
      position + textLength (early position ordered) := by
  have hlength : (items.take position).length = position :=
    List.length_take_of_le hposition
  have hleft : Ordered (items.take position).length (early position ordered) := by
    rw [hlength]
    exact (hsplit ▸ hordered : Ordered items.length _).left.within
      (fun edit hmem => of_decide_eq_true (List.mem_filter.mp hmem).2)
  have h := length_rebuild hleft (Nat.zero_le _) (fun _ _ => Nat.zero_le _)
  rw [hlength, Nat.zero_add] at h
  exact h

/-- Edits around a position can be applied in two parts. -/
theorem rebuild_split
    (hordered : Ordered items.length ordered)
    (hposition : position ≤ items.length)
    (hsplit : ordered = early position ordered ++ after)
    (hafter : ∀ edit ∈ after, position ≤ edit.start) :
    rebuild items 0 ordered =
      rebuild (items.take position) 0 (early position ordered) ++
        rebuild items position after := by
  have hleft : Ordered position (early position ordered) :=
    (hsplit ▸ hordered : Ordered items.length _).left.within
      (fun edit hmem => of_decide_eq_true (List.mem_filter.mp hmem).2)
  conv_lhs => rw [hsplit]
  exact rebuild_append hposition hleft hafter (Nat.zero_le _)

/-- Nothing stands behind the position exactly if it is the end. -/
theorem rebuild_after_eq_nil_iff
    (hordered : Ordered items.length ordered)
    (hwidth : ∀ edit ∈ ordered, edit.start < edit.stop)
    (htext : ∀ edit ∈ ordered, edit.text ≠ [])
    (hposition : position ≤ items.length)
    (hsplit : ordered = early position ordered ++ after)
    (hafter : ∀ edit ∈ after, position ≤ edit.start) :
    rebuild items position after = [] ↔ position = items.length := by
  cases after with
  | nil =>
      rw [rebuild, List.drop_eq_nil_iff]
      omega
  | cons edit after =>
      have hmem : edit ∈ ordered := by
        rw [hsplit]
        exact List.mem_append_right _ List.mem_cons_self
      have hstart := hafter edit List.mem_cons_self
      have hpositive := hwidth edit hmem
      have hstop := hordered.bounded edit hmem
      constructor
      · intro h
        rw [rebuild, List.append_assoc] at h
        have hnil := (List.append_eq_nil_iff.mp (List.append_eq_nil_iff.mp h).2).1
        exact absurd hnil (htext edit hmem)
      · intro h
        omega

/-- A text that cannot be exchanged with what is around it is inserted at its
place among the edits only where the position is settled. -/
theorem settled_of_edited
    {block : List α}
    (hordered : Ordered items.length ordered)
    (hwidth : ∀ edit ∈ ordered, edit.start < edit.stop)
    (htext : ∀ edit ∈ ordered, edit.text ≠ [])
    (hposition : position ≤ items.length)
    (hblock : ∀ moved : List α, moved ≠ [] →
      moved.length ≤ (rebuild items 0 ordered).length →
      moved ++ block ≠ block ++ moved)
    (h : Edited items (insertion position block :: ordered)
      ((rebuild items 0 ordered).take position ++ block ++
        (rebuild items 0 ordered).drop position)) :
    Settled items.length position ordered := by
  have hapart := apart_of_edited hwidth h
  obtain ⟨after, hsplit, hafter⟩ := hordered.split hwidth hapart
  have hlength := length_early hordered hposition hsplit
  rw [rebuild_split hordered hposition hsplit hafter] at hblock h
  rw [edited_insertion_iff hordered hwidth hposition hsplit hafter,
    insert_eq_iff hblock,
    rebuild_after_eq_nil_iff hordered hwidth htext hposition hsplit hafter] at h
  refine ⟨hapart, ?_⟩
  rcases h with hborder | ⟨hend, hle⟩
  · exact .inl (by omega)
  · exact .inr ⟨hend, by omega⟩

/-- Where the position is settled every text is inserted at its place. -/
theorem edited_of_settled
    (hordered : Ordered items.length ordered)
    (hwidth : ∀ edit ∈ ordered, edit.start < edit.stop)
    (htext : ∀ edit ∈ ordered, edit.text ≠ [])
    (hposition : position ≤ items.length)
    (h : Settled items.length position ordered)
    (block : List α) :
    Edited items (insertion position block :: ordered)
      ((rebuild items 0 ordered).take position ++ block ++
        (rebuild items 0 ordered).drop position) := by
  obtain ⟨after, hsplit, hafter⟩ := hordered.split hwidth h.apart
  have hlength := length_early hordered hposition hsplit
  refine (edited_insertion_iff hordered hwidth hposition hsplit hafter).mpr ?_
  rw [rebuild_split hordered hposition hsplit hafter]
  rcases h.level with hequal | ⟨hend, hle⟩
  · have heq : position =
        (rebuild (items.take position) 0 (early position ordered)).length := by
      omega
    generalize rebuild (items.take position) 0 (early position ordered) = left at heq
    rw [heq, List.take_left, List.drop_left]
  · rw [(rebuild_after_eq_nil_iff hordered hwidth htext hposition hsplit hafter).mpr hend,
      List.append_nil, List.append_nil]
    have hshort :
        (rebuild (items.take position) 0 (early position ordered)).length ≤
          position := by
      omega
    rw [List.take_of_length_le hshort, List.drop_eq_nil_of_le hshort, List.append_nil]

end Displaced

end Edit

end Dsql
