import Mathlib.Data.List.Basic

/-!
# File stores

A finite store of files.  A path has at most the content of its first entry;
writing replaces every entry of a path and removing drops them.
-/

namespace Dsql

/-- Files in no particular order. -/
structure FileStore (P C : Type) where
  entries : List (P × C)
deriving DecidableEq

namespace FileStore

variable {P C : Type} [DecidableEq P]

def empty : FileStore P C := ⟨[]⟩

def read (store : FileStore P C) (path : P) : Option C :=
  (store.entries.find? (fun entry => entry.1 = path)).map Prod.snd

def remove (store : FileStore P C) (path : P) : FileStore P C :=
  ⟨store.entries.filter (fun entry => entry.1 ≠ path)⟩

def write (store : FileStore P C) (path : P) (content : C) :
    FileStore P C :=
  ⟨(path, content) :: (store.remove path).entries⟩

/-- Every path of the store, as a directory listing gives them. -/
def paths (store : FileStore P C) : List P :=
  store.entries.map Prod.fst

@[simp] theorem read_empty (path : P) :
    (empty : FileStore P C).read path = none := rfl

theorem find?_filter_ne
    (entries : List (P × C))
    {path other : P}
    (h : other ≠ path) :
    (entries.filter (fun entry => entry.1 ≠ path)).find?
        (fun entry => entry.1 = other) =
      entries.find? (fun entry => entry.1 = other) := by
  induction entries with
  | nil => rfl
  | cons entry rest ih =>
      by_cases hpath : entry.1 = path
      · have hother : entry.1 ≠ other := fun heq => h (heq ▸ hpath)
        rw [List.filter_cons_of_neg (by simp [hpath]), ih,
          List.find?_cons_of_neg (by simp [hother])]
      · rw [List.filter_cons_of_pos (by simp [hpath])]
        by_cases hother : entry.1 = other
        · rw [List.find?_cons_of_pos (by simp [hother]),
            List.find?_cons_of_pos (by simp [hother])]
        · rw [List.find?_cons_of_neg (by simp [hother]), ih,
            List.find?_cons_of_neg (by simp [hother])]

@[simp] theorem read_remove_self (store : FileStore P C) (path : P) :
    (store.remove path).read path = none := by
  simp [read, remove, List.find?_eq_none]

theorem read_remove_of_ne
    (store : FileStore P C)
    {path other : P}
    (h : other ≠ path) :
    (store.remove path).read other = store.read other := by
  simp only [read, remove, find?_filter_ne store.entries h]

@[simp] theorem read_write_self
    (store : FileStore P C)
    (path : P)
    (content : C) :
    (store.write path content).read path = some content := by
  simp [read, write]

theorem read_write_of_ne
    (store : FileStore P C)
    {path other : P}
    (content : C)
    (h : other ≠ path) :
    (store.write path content).read other = store.read other := by
  have hne : path ≠ other := fun heq => h heq.symm
  rw [← read_remove_of_ne store h]
  simp [read, write, hne]

/-- A path is listed exactly when it can be read. -/
theorem mem_paths_iff (store : FileStore P C) (path : P) :
    path ∈ store.paths ↔ (store.read path).isSome = true := by
  simp only [paths, read, Option.isSome_map, List.find?_isSome,
    decide_eq_true_eq, List.mem_map]

end FileStore

end Dsql
