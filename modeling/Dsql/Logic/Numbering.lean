import Mathlib.Tactic

/-!
# Numbering keys on request

A request for a key gets the number of the key, and a key that was not
requested before gets the next number.  The keys are kept in the order of their
numbers, which count from one.
-/

namespace Dsql

namespace Numbering

variable {κ : Type} [DecidableEq κ]

/-- The number of a requested key, and the keys after the request. -/
def request (keys : List κ) (key : κ) : Nat × List κ :=
  match keys.idxOf? key with
  | some index => (index + 1, keys)
  | none => (keys.length + 1, keys ++ [key])

omit [DecidableEq κ] in
/-- The key that a number stands for. -/
def Names (keys : List κ) (number : Nat) (key : κ) : Prop :=
  0 < number ∧ keys[number - 1]? = some key

section Names

omit [DecidableEq κ]

variable {keys more : List κ} {number other : Nat} {key : κ}

/-- Later requests leave the numbers as they are. -/
theorem Names.mono
    (h : Names keys number key)
    (hmore : keys <+: more) : Names more number key := by
  obtain ⟨rest, rfl⟩ := hmore
  obtain ⟨hpositive, hkey⟩ := h
  have hbelow := (List.getElem?_eq_some_iff.mp hkey).1
  exact ⟨hpositive, by rw [List.getElem?_append_left hbelow, hkey]⟩

/-- A number names one key. -/
theorem Names.key_eq
    {key' : κ}
    (h : Names keys number key)
    (h' : Names keys number key') : key = key' :=
  Option.some.inj (h.2.symm.trans h'.2)

/-- A key is named by one number. -/
theorem Names.number_eq
    (hkeys : keys.Nodup)
    (h : Names keys number key)
    (h' : Names keys other key) : number = other := by
  have hbelow := (List.getElem?_eq_some_iff.mp h.2).1
  have hsame : number - 1 = other - 1 :=
    (List.getElem?_inj hbelow hkeys).mp (h.2.trans h'.2.symm)
  have hnumber := h.1
  have hother := h'.1
  omega

theorem Names.mem (h : Names keys number key) : key ∈ keys :=
  List.mem_of_getElem? h.2

theorem exists_names (h : key ∈ keys) : ∃ number, Names keys number key := by
  obtain ⟨index, hindex⟩ := List.mem_iff_getElem?.mp h
  exact ⟨index + 1, Nat.succ_pos index, hindex⟩

/-- The numbers with a key are the ones from one up to the number of keys. -/
theorem names_iff : (∃ key, Names keys number key) ↔
    1 ≤ number ∧ number ≤ keys.length := by
  constructor
  · rintro ⟨key, hpositive, hkey⟩
    have hbelow := (List.getElem?_eq_some_iff.mp hkey).1
    omega
  · rintro ⟨hpositive, hle⟩
    have hbelow : number - 1 < keys.length := by omega
    exact ⟨keys[number - 1], hpositive, List.getElem?_eq_getElem hbelow⟩

end Names

section Request

variable (keys : List κ) (key : κ)

/-- A requested key is named by the number that it gets. -/
theorem request_names :
    Names (request keys key).2 (request keys key).1 key := by
  unfold request
  cases hindex : keys.idxOf? key with
  | none =>
      refine ⟨Nat.succ_pos _, ?_⟩
      rw [Nat.add_sub_cancel, List.getElem?_concat_length]
  | some index =>
      refine ⟨Nat.succ_pos index, ?_⟩
      rw [Nat.add_sub_cancel]
      obtain ⟨hbelow, hkey⟩ := List.findIdx?_eq_some_iff_getElem.mp hindex
      rw [List.getElem?_eq_getElem hbelow]
      simpa using hkey.1

/-- A request renumbers nothing. -/
theorem request_extends : keys <+: (request keys key).2 := by
  unfold request
  cases keys.idxOf? key with
  | none => exact List.prefix_append keys [key]
  | some index => exact List.prefix_refl keys

/-- The keys are the requested ones, each where it was requested first. -/
theorem request_eraseDups (requested : List κ) :
    (request requested.eraseDups key).2 = (requested ++ [key]).eraseDups := by
  rw [List.eraseDups_append]
  unfold request
  cases hindex : requested.eraseDups.idxOf? key with
  | none =>
      rw [List.idxOf?_eq_none_iff, List.mem_eraseDups] at hindex
      have hnew : [key].removeAll requested = [key] := by
        simpa [List.removeAll] using hindex
      rw [hnew]
      rfl
  | some index =>
      have hold : key ∈ requested := by
        by_contra hnot
        rw [List.idxOf?_eq_none_iff.mpr] at hindex
        · cases hindex
        · rwa [List.mem_eraseDups]
      have hnone : [key].removeAll requested = [] := by
        simpa [List.removeAll] using hold
      rw [hnone]
      exact (List.append_nil _).symm

theorem nodup_eraseDups (requested : List κ) : requested.eraseDups.Nodup := by
  induction requested using List.reverseRecOn with
  | nil => exact List.nodup_nil
  | append_singleton requested key ih =>
      rw [← request_eraseDups]
      unfold request
      cases hindex : requested.eraseDups.idxOf? key with
      | none =>
          rw [List.idxOf?_eq_none_iff] at hindex
          exact List.nodup_append_comm.mp
            (List.nodup_cons.mpr ⟨hindex, ih⟩)
      | some index => exact ih

end Request

/-! ## Histories of requests -/

/-- The keys after some requests, each with the number it got. -/
structure Allotted (keys : List κ) (requests : List (κ × Nat)) : Prop where
  /-- A key has its place where it was requested first. -/
  order : keys = (requests.map Prod.fst).eraseDups
  names : ∀ asked ∈ requests, Names keys asked.2 asked.1

namespace Allotted

variable {keys : List κ} {requests : List (κ × Nat)}

theorem nil : Allotted ([] : List κ) [] := ⟨rfl, nofun⟩

theorem nodup (h : Allotted keys requests) : keys.Nodup := by
  rw [h.order]
  exact nodup_eraseDups _

/-- The keys are those that were requested. -/
theorem mem_iff (h : Allotted keys requests) (key : κ) :
    key ∈ keys ↔ ∃ number, (key, number) ∈ requests := by
  rw [h.order, List.mem_eraseDups]
  constructor
  · intro hkey
    obtain ⟨⟨key, number⟩, hasked, rfl⟩ := List.mem_map.mp hkey
    exact ⟨number, hasked⟩
  · rintro ⟨number, hasked⟩
    exact List.mem_map.mpr ⟨(key, number), hasked, rfl⟩

/-- What one more request adds. -/
theorem request
    (h : Allotted keys requests)
    (key : κ) :
    Allotted (Numbering.request keys key).2
      (requests ++ [(key, (Numbering.request keys key).1)]) := by
  refine ⟨?_, ?_⟩
  · rw [List.map_append, h.order]
    exact request_eraseDups key _
  · intro asked hasked
    rcases List.mem_append.mp hasked with hbefore | hnow
    · exact (h.names asked hbefore).mono (request_extends keys key)
    · obtain rfl := List.mem_singleton.mp hnow
      exact request_names keys key

/-- Two requests share a number exactly when they share their key. -/
theorem share_iff
    (h : Allotted keys requests)
    {first second : κ × Nat}
    (hfirst : first ∈ requests)
    (hsecond : second ∈ requests) :
    first.2 = second.2 ↔ first.1 = second.1 := by
  have hleft := h.names first hfirst
  have hright := h.names second hsecond
  constructor
  · intro hsame
    rw [hsame] at hleft
    exact hleft.key_eq hright
  · intro hsame
    rw [hsame] at hleft
    exact hleft.number_eq h.nodup hright

/-- The numbers that were handed out count from one without a gap. -/
theorem handed_iff
    (h : Allotted keys requests)
    (number : Nat) :
    (∃ asked ∈ requests, asked.2 = number) ↔
      1 ≤ number ∧ number ≤ keys.length := by
  rw [← names_iff]
  constructor
  · rintro ⟨asked, hasked, rfl⟩
    exact ⟨asked.1, h.names asked hasked⟩
  · rintro ⟨key, hkey⟩
    obtain ⟨other, hasked⟩ := (h.mem_iff key).mp hkey.mem
    refine ⟨(key, other), hasked, ?_⟩
    exact (h.names _ hasked).number_eq h.nodup hkey

end Allotted

/-! ## Numbers that are written -/

section Written

omit [DecidableEq κ]

/-- Some numbers stand for exactly some keys. -/
structure Writes (keys : List κ) (numbers : List Nat) (written : List κ) :
    Prop where
  named : ∀ number ∈ numbers, ∃ key ∈ written, Names keys number key
  all : ∀ key ∈ written, ∃ number ∈ numbers, Names keys number key

namespace Writes

variable {keys more : List κ} {numbers others : List Nat}
  {written besides : List κ}

theorem nil : Writes keys [] [] := ⟨nofun, nofun⟩

theorem single
    {number : Nat}
    {key : κ}
    (h : Names keys number key) : Writes keys [number] [key] := by
  refine ⟨?_, ?_⟩
  · rintro _ (_ | ⟨_, ⟨⟩⟩)
    exact ⟨key, List.mem_singleton_self key, h⟩
  · rintro _ (_ | ⟨_, ⟨⟩⟩)
    exact ⟨number, List.mem_singleton_self number, h⟩

/-- Later keys change no number. -/
theorem mono
    (h : Writes keys numbers written)
    (hmore : keys <+: more) : Writes more numbers written := by
  refine ⟨?_, ?_⟩
  · intro number hnumber
    obtain ⟨key, hkey, hnames⟩ := h.named number hnumber
    exact ⟨key, hkey, hnames.mono hmore⟩
  · intro key hkey
    obtain ⟨number, hnumber, hnames⟩ := h.all key hkey
    exact ⟨number, hnumber, hnames.mono hmore⟩

/-- Parts write their numbers one after the other. -/
theorem append
    (h : Writes keys numbers written)
    (hothers : Writes keys others besides) :
    Writes keys (numbers ++ others) (written ++ besides) := by
  refine ⟨?_, ?_⟩
  · intro number hnumber
    rcases List.mem_append.mp hnumber with hleft | hright
    · obtain ⟨key, hkey, hnames⟩ := h.named number hleft
      exact ⟨key, List.mem_append_left _ hkey, hnames⟩
    · obtain ⟨key, hkey, hnames⟩ := hothers.named number hright
      exact ⟨key, List.mem_append_right _ hkey, hnames⟩
  · intro key hkey
    rcases List.mem_append.mp hkey with hleft | hright
    · obtain ⟨number, hnumber, hnames⟩ := h.all key hleft
      exact ⟨number, List.mem_append_left _ hnumber, hnames⟩
    · obtain ⟨number, hnumber, hnames⟩ := hothers.all key hright
      exact ⟨number, List.mem_append_right _ hnumber, hnames⟩

/-- Neither the order nor repetitions matter. -/
theorem congr
    {numbers' : List Nat}
    {written' : List κ}
    (h : Writes keys numbers written)
    (hnumbers : ∀ number, number ∈ numbers' ↔ number ∈ numbers)
    (hwritten : ∀ key, key ∈ written' ↔ key ∈ written) :
    Writes keys numbers' written' := by
  refine ⟨?_, ?_⟩
  · intro number hnumber
    obtain ⟨key, hkey, hnames⟩ := h.named number ((hnumbers number).mp hnumber)
    exact ⟨key, (hwritten key).mpr hkey, hnames⟩
  · intro key hkey
    obtain ⟨number, hnumber, hnames⟩ := h.all key ((hwritten key).mp hkey)
    exact ⟨number, (hnumbers number).mpr hnumber, hnames⟩

/-- Every number is written exactly when every key is. -/
theorem total_iff
    (h : Writes keys numbers written)
    (hkeys : keys.Nodup) :
    (∀ number, 1 ≤ number → number ≤ keys.length → number ∈ numbers) ↔
      ∀ key ∈ keys, key ∈ written := by
  constructor
  · intro hall key hkey
    obtain ⟨number, hnames⟩ := exists_names hkey
    obtain ⟨hpositive, hle⟩ := names_iff.mp ⟨key, hnames⟩
    obtain ⟨other, hother, hsame⟩ := h.named number (hall number hpositive hle)
    rwa [hnames.key_eq hsame]
  · intro hall number hpositive hle
    obtain ⟨key, hnames⟩ := names_iff.mpr ⟨hpositive, hle⟩
    obtain ⟨other, hother, hsame⟩ := h.all key (hall key hnames.mem)
    rwa [hnames.number_eq hkeys hsame]

end Writes

end Written

end Numbering

end Dsql
