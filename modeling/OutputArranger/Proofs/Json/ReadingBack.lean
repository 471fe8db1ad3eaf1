import OutputArranger.Json.Reader
import OutputArranger.Proofs.Json.Tokens

/-!
# Documents that are read back

A document that is written without blanks and read again is the same document, if each of its
numbers is read back on its own. The writer puts a mark behind every value inside an array or an
object, so its words are kept apart; and in front of what a value leaves to read, the reader has
read this value, whatever it is part of.
-/

namespace OutputArranger.Json

/-- Induction on how a document is nested. -/
@[elab_as_elim]
theorem induction {P : Json → Prop} (null : P .null) (bool : ∀ b, P (.bool b))
    (number : ∀ n, P (.number n)) (string : ∀ s, P (.string s))
    (array : ∀ items, (∀ item ∈ items, P item) → P (.array items))
    (object : ∀ members, (∀ m ∈ members, P m.2) → P (.object members)) (j : Json) : P j := by
  refine @Json.rec P (fun items => ∀ item ∈ items, P item) (fun members => ∀ m ∈ members, P m.2)
    (fun m => P m.2) null bool number string array object ?_ ?_ ?_ ?_ ?_ j
  · simp
  · intro item items hitem hitems
    exact List.forall_mem_cons.mpr ⟨hitem, hitems⟩
  · simp
  · intro m members hm hmembers
    exact List.forall_mem_cons.mpr ⟨hm, hmembers⟩
  · intro _ _ hvalue
    exact hvalue

/-! ## Numbers of a document -/

section Numbers

variable {n : Number} {items : List Json} {members : List (String × Json)}

@[simp] theorem number_notMem_null : .number n ∉ Json.null.tokens := by
  simp [tokens]

@[simp] theorem number_notMem_bool (b : Bool) : .number n ∉ (Json.bool b).tokens := by
  simp [tokens]

@[simp] theorem number_notMem_string (s : String) : .number n ∉ (Json.string s).tokens := by
  simp [tokens]

@[simp] theorem number_notMem_optionString (o : Option String) :
    .number n ∉ (optionString o).tokens := by
  cases o <;> simp [optionString]

theorem eq_real_of_mem_float {x : Binary64} (h : .number n ∈ (Json.float x).tokens) :
    n = .real x := by
  unfold float at h
  split at h
  · simpa [tokens] using h
  · simp at h

/-- The numbers of an array are those of its items. -/
@[simp] theorem number_mem_array :
    .number n ∈ (Json.array items).tokens ↔ ∃ item ∈ items, .number n ∈ item.tokens := by
  have hmore (items : List Json) : .number n ∈ tokensOfMoreItems items ↔
      ∃ item ∈ items, .number n ∈ item.tokens := by
    induction items with
    | nil => simp [tokensOfMoreItems]
    | cons item items ih => simp [tokensOfMoreItems, ih]
  cases items with
  | nil => simp [tokens, tokensOfItems]
  | cons item items => simp [tokens, tokensOfItems, hmore]

/-- The numbers of an object are those of the values of its members. -/
@[simp] theorem number_mem_object :
    .number n ∈ (Json.object members).tokens ↔ ∃ m ∈ members, .number n ∈ m.2.tokens := by
  have hmore (members : List (String × Json)) : .number n ∈ tokensOfMoreMembers members ↔
      ∃ m ∈ members, .number n ∈ m.2.tokens := by
    induction members with
    | nil => simp [tokensOfMoreMembers]
    | cons m members ih => simp [tokensOfMoreMembers, ih]
  cases members with
  | nil => simp [tokens, tokensOfMembers]
  | cons m members => simp [tokens, tokensOfMembers, hmore]

end Numbers

/-! ## Words are kept apart -/

section Separated

variable {t : Token} {ts us : List Token}

theorem Separated.cons (ht : t.isWord = false) (hts : Separated ts) : Separated (t :: ts) :=
  List.isChain_cons.mpr ⟨by simp [ht], hts⟩

/-- Tokens that begin with a mark can follow any others. -/
theorem Separated.append (hts : Separated ts) (hus : Separated us)
    (hmark : ∀ u ∈ us.head?, u.isMark = true) : Separated (ts ++ us) :=
  List.isChain_append.mpr ⟨hts, hus, fun _ _ u hu _ => hmark u hu⟩

end Separated

theorem isMark_tokensOfMoreItems (items : List Json) :
    ∀ t ∈ (tokensOfMoreItems items).head?, t.isMark = true := by
  cases items <;> simp [tokensOfMoreItems, Token.isMark]

theorem isMark_tokensOfMoreMembers (members : List (String × Json)) :
    ∀ t ∈ (tokensOfMoreMembers members).head?, t.isMark = true := by
  cases members <;> simp [tokensOfMoreMembers, Token.isMark]

theorem separated_tokensOfMoreItems {items : List Json}
    (h : ∀ item ∈ items, Separated item.tokens) : Separated (tokensOfMoreItems items) := by
  induction items with
  | nil => exact .singleton _
  | cons item items ih =>
      obtain ⟨hitem, hitems⟩ := List.forall_mem_cons.mp h
      exact (hitem.append (ih hitems) (isMark_tokensOfMoreItems items)).cons rfl

theorem separated_tokensOfMoreMembers {members : List (String × Json)}
    (h : ∀ m ∈ members, Separated m.2.tokens) : Separated (tokensOfMoreMembers members) := by
  induction members with
  | nil => exact .singleton _
  | cons m members ih =>
      obtain ⟨hm, hmembers⟩ := List.forall_mem_cons.mp h
      exact (((hm.append (ih hmembers) (isMark_tokensOfMoreMembers members)).cons rfl).cons
        rfl).cons rfl

/-- The words of a document are kept apart. -/
theorem separated_tokens (j : Json) : Separated j.tokens := by
  induction j using Json.induction with
  | null | bool | number | string => exact .singleton _
  | array items h =>
      cases items with
      | nil => exact Separated.cons rfl (.singleton _)
      | cons item items =>
          obtain ⟨hitem, hitems⟩ := List.forall_mem_cons.mp h
          exact (hitem.append (separated_tokensOfMoreItems hitems)
            (isMark_tokensOfMoreItems items)).cons rfl
  | object members h =>
      cases members with
      | nil => exact Separated.cons rfl (.singleton _)
      | cons m members =>
          obtain ⟨hm, hmembers⟩ := List.forall_mem_cons.mp h
          exact (((hm.append (separated_tokensOfMoreMembers hmembers)
            (isMark_tokensOfMoreMembers members)).cons rfl).cons rfl).cons rfl

/-! ## Values are read -/

/-- A value is read in the same way wherever it stands. -/
def IsRead (j : Json) : Prop :=
  ∀ frames rest, Reader.run (.value frames) (j.tokens ++ rest) = Reader.run (.after j frames) rest

theorem run_tokensOfMoreItems {items : List Json} (h : ∀ item ∈ items, item.IsRead) (last : Json)
    (seen : List Json) (frames : List Frame) (rest : List Token) :
    Reader.run (.after last (.array seen :: frames)) (tokensOfMoreItems items ++ rest) =
      Reader.run (.after (.array (seen.reverse ++ last :: items)) frames) rest := by
  induction items generalizing last seen with
  | nil =>
      rw [← List.reverse_cons]
      rfl
  | cons item items ih =>
      obtain ⟨hitem, hitems⟩ := List.forall_mem_cons.mp h
      have hcomma (more : List Token) :
          Reader.run (.after last (.array seen :: frames)) (.comma :: more) =
            Reader.run (.value (.array (last :: seen) :: frames)) more := rfl
      rw [tokensOfMoreItems, List.cons_append, hcomma, List.append_assoc, hitem, ih hitems,
        List.reverse_cons, List.append_assoc]
      rfl

theorem run_tokensOfMoreMembers {members : List (String × Json)}
    (h : ∀ m ∈ members, m.2.IsRead) (last : Json) (seen : List (String × Json)) (key : String)
    (frames : List Frame) (rest : List Token) :
    Reader.run (.after last (.object (some seen) key :: frames))
        (tokensOfMoreMembers members ++ rest) =
      Reader.run (.after (.object (seen.reverse ++ (key, last) :: members)) frames) rest := by
  induction members generalizing last seen key with
  | nil =>
      rw [← List.reverse_cons]
      rfl
  | cons m members ih =>
      obtain ⟨hm, hmembers⟩ := List.forall_mem_cons.mp h
      have hkey (more : List Token) :
          Reader.run (.after last (.object (some seen) key :: frames))
              (.comma :: .string m.1.toList :: .colon :: more) =
            Reader.run (.value (.object (some ((key, last) :: seen)) m.1 :: frames)) more := by
        simp only [Reader.run, Reader.step, Members.add_some, String.ofList_toList]
      rw [tokensOfMoreMembers, List.cons_append, List.cons_append, List.cons_append, hkey,
        List.append_assoc, hm, ih hmembers, List.reverse_cons, List.append_assoc]
      rfl

/-- An array does not end where its first item begins. -/
theorem run_arrayStart (j : Json) (frames : List Frame) (rest : List Token) :
    Reader.run (.arrayStart frames) (j.tokens ++ rest) =
      Reader.run (.value (.array [] :: frames)) (j.tokens ++ rest) := by
  cases j <;> rfl

theorem isRead (j : Json) : j.IsRead := by
  induction j using Json.induction with
  | null | bool | number => exact fun _ _ => rfl
  | string s =>
      intro frames rest
      simp only [tokens, List.cons_append, List.nil_append, Reader.run, Reader.step,
        Reader.beginValue, String.ofList_toList]
  | array items h =>
      intro frames rest
      cases items with
      | nil => rfl
      | cons item items =>
          obtain ⟨hitem, hitems⟩ := List.forall_mem_cons.mp h
          have hopen (more : List Token) :
              Reader.run (.value frames) (.openBracket :: more) =
                Reader.run (.arrayStart frames) more := rfl
          rw [tokens, tokensOfItems, List.cons_append, hopen, List.append_assoc, run_arrayStart,
            hitem, run_tokensOfMoreItems hitems]
          rfl
  | object members h =>
      intro frames rest
      cases members with
      | nil => rfl
      | cons m members =>
          obtain ⟨hm, hmembers⟩ := List.forall_mem_cons.mp h
          have hopen (more : List Token) :
              Reader.run (.value frames) (.openBrace :: .string m.1.toList :: .colon :: more) =
                Reader.run (.value (.object (some []) m.1 :: frames)) more := by
            simp only [Reader.run, Reader.step, Reader.beginValue, String.ofList_toList]
          rw [tokens, tokensOfMembers, List.cons_append, List.cons_append, List.cons_append, hopen,
            List.append_assoc, hm, run_tokensOfMoreMembers hmembers]
          rfl

/-- A document is read back from its text if its numbers are. -/
theorem parse_compact {j : Json} (hnumbers : ∀ n, .number n ∈ j.tokens → Number.ReadsBack n) :
    parse j.compact = some j := by
  have hend := j.isRead [] []
  rw [List.append_nil] at hend
  rw [parse, ofPieces, compact, String.toList_ofList, compactChars,
    tokenize_flatMap_text (separated_tokens j) hnumbers]
  exact hend

end OutputArranger.Json
