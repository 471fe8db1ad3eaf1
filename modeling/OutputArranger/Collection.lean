/-!
# Changing one element of a list

Lists that stand for tables are looked up by a test; the first element that passes it is the one
that is meant. `updateFirst` changes that element and leaves the rest alone.
-/

namespace OutputArranger

/-- Changes the first element that passes the test. -/
def updateFirst {α : Type} (p : α → Bool) (f : α → α) : List α → List α
  | [] => []
  | a :: rest => if p a then f a :: rest else a :: updateFirst p f rest

@[simp] theorem updateFirst_nil {α : Type} (p : α → Bool) (f : α → α) :
    updateFirst p f [] = [] := rfl

@[simp] theorem length_updateFirst {α : Type} (p : α → Bool) (f : α → α) (xs : List α) :
    (updateFirst p f xs).length = xs.length := by
  induction xs with
  | nil => rfl
  | cons a rest ih => by_cases h : p a <;> simp [updateFirst, h, ih]

/-- Appends an element unless it is there already. -/
def insertNew {α : Type} [DecidableEq α] (a : α) (xs : List α) : List α :=
  if a ∈ xs then xs else xs ++ [a]

/-- An element that is appended is found afterwards. -/
@[simp] theorem mem_insertNew {α : Type} [DecidableEq α] {a b : α} {xs : List α} :
    b ∈ insertNew a xs ↔ b = a ∨ b ∈ xs := by
  by_cases h : a ∈ xs
  · simp only [insertNew, h, if_true]
    constructor
    · exact Or.inr
    · rintro (rfl | hb)
      · exact h
      · exact hb
  · simp [insertNew, h, or_comm]

end OutputArranger
