import OutputArranger.Proofs.Toml.FloatText
import OutputArranger.Proofs.Toml.QuotedText

/-!
# Lines read back

Strings, lists of strings, floats and booleans are read back as the values of their entries, and
each line that is written as the statement that it makes. What follows a line does not matter for
how the line is read, so the lines of a text are read one by one.
-/

namespace OutputArranger.Toml

open Config (quoted listText entryLine)

variable {cs text rest : List Char} {key : String} {v : Value} {ss : List Statement}
  {fuel depth : Nat}

/-! ## Strings -/

theorem encode_cons (cs : List Char) :
    ∃ q more, Text.encode cs = q :: more ∧ (q = '"' ∨ q = '\'') := by
  unfold Text.encode
  split
  · exact ⟨_, _, rfl, .inl rfl⟩
  · exact ⟨_, _, rfl, .inr rfl⟩
  · exact ⟨_, _, rfl, .inl rfl⟩
  · exact ⟨_, _, rfl, .inr rfl⟩

/-- A string is read up to any character that is no quote. -/
theorem readValue_quoted (s : String) (hdouble : rest.head? ≠ some '"')
    (hsingle : rest.head? ≠ some '\'') :
    readValue (fuel + 1) depth (quoted s ++ rest) = some (.string s, rest) := by
  have hread := Text.read_encode s.toList hdouble hsingle
  obtain ⟨q, more, hquoted, hq⟩ := encode_cons s.toList
  unfold quoted
  rw [hquoted, List.cons_append] at hread ⊢
  obtain rfl | rfl := hq <;> simp [readValue, hread]

/-! ## Lists of strings -/

theorem dropFiller_quoted (s : String) (rest : List Char) :
    dropFiller (fuel + 1) (quoted s ++ rest) = some (quoted s ++ rest) := by
  obtain ⟨q, more, hquoted, hq⟩ := encode_cons s.toList
  unfold quoted
  rw [hquoted, List.cons_append]
  obtain rfl | rfl := hq <;> simp [dropFiller, dropBlanks, isBlank]

theorem dropFiller_break (fuel : Nat) (rest : List Char) :
    dropFiller (fuel + 1) ('\n' :: rest) = dropFiller fuel rest := by
  simp [dropFiller, dropBlanks, isBlank]

theorem dropFiller_blank (fuel : Nat) (rest : List Char) :
    dropFiller (fuel + 1) (' ' :: rest) = dropFiller (fuel + 1) rest := by
  simp [dropFiller, dropBlanks, isBlank]

theorem dropFiller_mark {c : Char} (hc : c = ',' ∨ c = ']') (rest : List Char) :
    dropFiller (fuel + 1) (c :: rest) = some (c :: rest) := by
  obtain rfl | rfl := hc <;> simp [dropFiller, dropBlanks, isBlank]

/-- An item is read with the comma or the bracket behind it. -/
theorem readItems_quoted (s : String) {c : Char} (hc : c = ',' ∨ c = ']')
    (hcs : dropFiller (cs.length + 1) cs = some (quoted s ++ c :: rest)) :
    readItems (fuel + 2) depth cs =
      if c = ',' then (readItems (fuel + 1) depth rest).map fun (items, rest) =>
        (.string s :: items, rest)
      else some ([.string s], rest) := by
  have hdouble : (c :: rest).head? ≠ some '"' := by
    obtain rfl | rfl := hc <;> simp
  have hsingle : (c :: rest).head? ≠ some '\'' := by
    obtain rfl | rfl := hc <;> simp
  have hvalue : readValue (fuel + 1) depth (quoted s ++ c :: rest) = some (.string s, c :: rest) :=
    readValue_quoted s hdouble hsingle
  obtain ⟨q, others, hquoted, hq⟩ := encode_cons s.toList
  have hcons : quoted s = q :: others := hquoted
  rw [hcons, List.cons_append] at hcs hvalue
  have hbracket : q ≠ ']' := by
    obtain rfl | rfl := hq <;> decide
  obtain rfl | rfl := hc
  · rw [readItems]
    simp [hcs, hvalue, dropFiller_mark, hbracket, Option.map_eq_bind]
  · rw [readItems]
    simp [hcs, hvalue, dropFiller_mark, hbracket]

/-- The lines of the items of a list. -/
def itemLines (items : List String) : List Char :=
  items.flatMap fun s => [' ', ' ', ' ', ' '] ++ quoted s ++ [',', '\n']

theorem length_le_itemLines (items : List String) : items.length ≤ (itemLines items).length := by
  induction items with
  | nil => exact Nat.le_refl 0
  | cons s items ih =>
      simp only [itemLines, List.flatMap_cons, List.length_append, List.length_cons] at ih ⊢
      omega

theorem readItems_itemLines (items : List String) (depth : Nat) (rest : List Char)
    (hfuel : items.length < fuel) :
    readItems fuel depth ('\n' :: (itemLines items ++ ']' :: rest)) =
      some (items.map .string, rest) := by
  -- Each item costs one step and the bracket another one; what is inside an item costs none of
  -- these.
  induction items generalizing fuel with
  | nil =>
      obtain ⟨fuel, rfl⟩ : ∃ n, fuel = n + 1 := ⟨fuel - 1, by omega⟩
      simp [itemLines, readItems, dropFiller, dropBlanks, isBlank]
  | cons s items ih =>
      obtain ⟨fuel, rfl⟩ : ∃ n, fuel = n + 2 := ⟨fuel - 2, by simp at hfuel; omega⟩
      have hnext := ih (Nat.lt_of_succ_lt_succ hfuel)
      have hitem : dropFiller (('\n' :: (itemLines (s :: items) ++ ']' :: rest)).length + 1)
          ('\n' :: (itemLines (s :: items) ++ ']' :: rest)) =
            some (quoted s ++ ',' :: '\n' :: (itemLines items ++ ']' :: rest)) := by
        have hlines : itemLines (s :: items) ++ ']' :: rest =
            ' ' :: ' ' :: ' ' :: ' ' ::
              (quoted s ++ ',' :: '\n' :: (itemLines items ++ ']' :: rest)) := by
          simp [itemLines]
        rw [hlines, List.length_cons, dropFiller_break]
        simp only [dropFiller_blank, dropFiller_quoted]
      rw [readItems_quoted s (.inl rfl) hitem, if_pos rfl, hnext]
      rfl

/-! ## Values of entries -/

/-- A text from which a value is read up to the end of the line. -/
structure Writes (text : List Char) (v : Value) : Prop where
  opens : ∀ c ∈ text.head?, isBlank c = false
  read {fuel : Nat} (rest : List Char) : text.length < fuel →
    readValue fuel nestingLimit (text ++ '\n' :: rest) = some (v, '\n' :: rest)

theorem writes_quoted (s : String) : Writes (quoted s) (.string s) where
  opens := by
    obtain ⟨q, more, hquoted, hq⟩ := encode_cons s.toList
    unfold quoted
    rw [hquoted]
    obtain rfl | rfl := hq <;> simp [isBlank]
  read rest hfuel := by
    obtain ⟨fuel, rfl⟩ := Nat.exists_eq_add_one_of_ne_zero (Nat.ne_zero_of_lt hfuel)
    exact readValue_quoted s (by simp) (by simp)

/-- What is read behind the bracket of a list are its items. -/
theorem writes_bracket {items : List Value}
    (h : ∀ fuel depth rest, text.length < fuel →
      readItems fuel depth (text ++ rest) = some (items, rest)) :
    Writes ('[' :: text) (.array items) where
  opens := by simp [isBlank]
  read rest hfuel := by
    obtain ⟨fuel, rfl⟩ := Nat.exists_eq_add_one_of_ne_zero (Nat.ne_zero_of_lt hfuel)
    have hitems := h _ 79 ('\n' :: rest) (Nat.lt_of_succ_lt_succ hfuel)
    show (readItems _ 79 (text ++ '\n' :: rest)).map _ = _
    rw [hitems, Option.map_some]

theorem writes_listText (items : List String) :
    Writes (listText items) (.array (items.map .string)) := by
  unfold listText
  split
  · refine writes_bracket fun fuel depth rest hfuel => ?_
    obtain ⟨fuel, rfl⟩ := Nat.exists_eq_add_one_of_ne_zero (Nat.ne_zero_of_lt hfuel)
    simp [readItems, dropFiller_mark]
  · rename_i s
    refine writes_bracket fun fuel depth rest hfuel => ?_
    obtain ⟨fuel, rfl⟩ : ∃ n, fuel = n + 2 := ⟨fuel - 2, by simp at hfuel; omega⟩
    have hfiller : dropFiller ((quoted s ++ ']' :: rest).length + 1) (quoted s ++ ']' :: rest) =
        some (quoted s ++ ']' :: rest) := dropFiller_quoted s _
    rw [List.append_assoc, List.singleton_append, readItems_quoted s (.inr rfl) hfiller]
    rfl
  · have hlines : (items.flatMap fun s => [' ', ' ', ' ', ' '] ++ quoted s ++ [',', '\n']) =
        itemLines items := rfl
    rw [hlines]
    refine writes_bracket fun fuel depth rest hfuel => ?_
    have hlength := length_le_itemLines items
    have hcount : items.length < fuel := by
      simp at hfuel
      omega
    simpa using readItems_itemLines items depth rest hcount

theorem writes_word (h : IsWord text v) : Writes text v := by
  have hne : text ≠ [] := by
    rintro rfl
    have hnone : readScalar [] = none := rfl
    have hread := h.read
    rw [hnone] at hread
    contradiction
  obtain ⟨c, word, rfl⟩ := List.exists_cons_of_ne_nil hne
  have hc := h.within c List.mem_cons_self
  have hneq (a : Char) (ha : isWordChar a = false) : c ≠ a := ne_of_isWordChar hc ha
  refine ⟨?_, fun rest hfuel => ?_⟩
  · simpa [isBlank] using ⟨hneq ' ' (by decide), hneq '\t' (by decide)⟩
  · obtain ⟨fuel, rfl⟩ := Nat.exists_eq_add_one_of_ne_zero (Nat.ne_zero_of_lt hfuel)
    have hquotes : c ≠ '"' ∧ c ≠ '\'' ∧ c ≠ '[' ∧ c ≠ '\x7b' :=
      ⟨hneq _ (by decide), hneq _ (by decide), hneq _ (by decide), hneq _ (by decide)⟩
    have hword := h.readWord rest
    rw [readValue.eq_def]
    split <;> simp_all

/-! ## Lines -/

/-- A key that is written without quotes. -/
def IsBare (key : String) : Prop := key.toList ≠ [] ∧ key.toList.all isKeyChar = true

instance (key : String) : Decidable (IsBare key) := inferInstanceAs (Decidable (_ ∧ _))

theorem IsBare.cons (h : IsBare key) : ∃ c more, key.toList = c :: more ∧ isKeyChar c = true := by
  obtain ⟨c, more, hcons⟩ := List.exists_cons_of_ne_nil h.1
  exact ⟨c, more, hcons, List.all_eq_true.mp h.2 c (hcons ▸ List.mem_cons_self)⟩

theorem ne_of_isKeyChar {c a : Char} (hc : isKeyChar c = true) (ha : isKeyChar a = false) :
    c ≠ a := by
  rintro rfl
  rw [hc] at ha
  contradiction

theorem isBlank_of_isKeyChar {c : Char} (hc : isKeyChar c = true) : isBlank c = false := by
  have hneq (a : Char) (ha : isKeyChar a = false) : c ≠ a := ne_of_isKeyChar hc ha
  simpa [isBlank] using ⟨hneq ' ' (by decide), hneq '\t' (by decide)⟩

theorem readKey_bare (hkey : IsBare key) {c : Char} (hc : isKeyChar c = false)
    (hdot : ∀ more, dropBlanks (c :: rest) ≠ '.' :: more) :
    readKey (fuel + 1) (key.toList ++ c :: rest) = some ([key], dropBlanks (c :: rest)) := by
  have hchars := List.all_eq_true.mp hkey.2
  have htake : (key.toList ++ c :: rest).takeWhile isKeyChar = key.toList := by
    rw [List.takeWhile_append_of_pos hchars, List.takeWhile_cons_of_neg (by simp [hc]),
      List.append_nil]
  have hdrop : (key.toList ++ c :: rest).dropWhile isKeyChar = c :: rest := by
    rw [List.dropWhile_append_of_pos hchars, List.dropWhile_cons_of_neg (by simp [hc])]
  obtain ⟨first, more, hcons, hfirst⟩ := hkey.cons
  have hneq (a : Char) (ha : isKeyChar a = false) : first ≠ a := ne_of_isKeyChar hfirst ha
  have hpart : readKeyPart (key.toList ++ c :: rest) = some (key, c :: rest) := by
    unfold readKeyPart
    split
    · rename_i hquote
      rw [hcons] at hquote
      exact absurd (List.cons.inj hquote).1 (hneq _ (by decide))
    · rename_i hquote
      rw [hcons] at hquote
      exact absurd (List.cons.inj hquote).1 (hneq _ (by decide))
    · simp only [htake, hdrop, hkey.1, if_false, String.ofList_toList]
  have hblanks : dropBlanks (key.toList ++ c :: rest) = key.toList ++ c :: rest := by
    have hblank := isBlank_of_isKeyChar hfirst
    rw [hcons, List.cons_append, dropBlanks, List.dropWhile_cons_of_neg (by simp [hblank])]
  rw [readKey, hblanks, hpart]
  simp only [Option.bind_eq_bind, Option.bind_some]

theorem endLine_break (rest : List Char) : endLine ('\n' :: rest) = some rest := by
  simp [endLine, dropBlanks, isBlank]

theorem Writes.dropBlanks_eq (hv : Writes text v) (rest : List Char) :
    dropBlanks (' ' :: (text ++ '\n' :: rest)) = text ++ '\n' :: rest := by
  cases text with
  | nil => simp [dropBlanks, isBlank]
  | cons c more =>
      rw [dropBlanks, List.dropWhile_cons_of_pos (by decide), List.cons_append,
        List.dropWhile_cons_of_neg (by simp [hv.opens c rfl])]

theorem readStatement_entryLine (hkey : IsBare key) (hv : Writes text v) (rest : List Char) :
    readStatement (entryLine key text ++ rest) = some (.entry [key] v, rest) := by
  obtain ⟨first, more, hcons, hfirst⟩ := hkey.cons
  have hbracket : first ≠ '[' := ne_of_isKeyChar hfirst (by decide)
  have hline : entryLine key text ++ rest =
      key.toList ++ ' ' :: '=' :: ' ' :: (text ++ '\n' :: rest) := by
    simp [entryLine]
  have hread (fuel : Nat) : readKey (fuel + 1)
      (key.toList ++ ' ' :: '=' :: ' ' :: (text ++ '\n' :: rest)) =
        some ([key], '=' :: ' ' :: (text ++ '\n' :: rest)) := by
    rw [readKey_bare hkey (by decide) (by simp [dropBlanks, isBlank])]
    simp [dropBlanks, isBlank]
  have hvalue : readValue ((' ' :: (text ++ '\n' :: rest)).length + 1) nestingLimit
      (text ++ '\n' :: rest) = some (v, '\n' :: rest) := hv.read rest (by simp; omega)
  rw [hline, readStatement.eq_def]
  split
  · rename_i hopens
    rw [hcons] at hopens
    exact absurd (List.cons.inj hopens).1 hbracket
  · rename_i hopens
    rw [hcons] at hopens
    exact absurd (List.cons.inj hopens).1 hbracket
  · simp only [hread, Option.bind_eq_bind, Option.bind_some, hv.dropBlanks_eq, hvalue,
      endLine_break]

/-- The header of one more table of a list. -/
def headerLine (key : String) : List Char := '\n' :: '[' :: '[' :: (key.toList ++ [']', ']', '\n'])

theorem readStatement_header (hkey : IsBare key) (rest : List Char) :
    readStatement ('[' :: '[' :: (key.toList ++ ']' :: ']' :: '\n' :: rest)) =
      some (.listedTable [key], rest) := by
  have hread (fuel : Nat) : readKey (fuel + 1) (key.toList ++ ']' :: ']' :: '\n' :: rest) =
      some ([key], ']' :: ']' :: '\n' :: rest) := by
    rw [readKey_bare hkey (by decide) (by simp [dropBlanks, isBlank])]
    simp [dropBlanks, isBlank]
  rw [readStatement]
  simp only [hread, Option.bind_eq_bind, Option.bind_some, endLine_break]

/-! ## Texts -/

/-- What a text is read as by any reader with fuel for all its characters. -/
def ReadsAs (cs : List Char) (ss : List Statement) : Prop :=
  ∀ fuel, cs.length < fuel → readStatements fuel cs = some ss

theorem readsAs_nil : ReadsAs [] [] := by
  intro fuel hfuel
  obtain ⟨fuel, rfl⟩ := Nat.exists_eq_add_one_of_ne_zero (Nat.ne_zero_of_lt hfuel)
  rfl

/-- A line with a statement and the lines behind it. -/
theorem ReadsAs.cons {c : Char} {s : Statement} (hc : isBlank c = false)
    (hempty : isEmptyLine (c :: cs) = false)
    (hs : readStatement (c :: cs) = some (s, rest)) (hlength : rest.length < (c :: cs).length)
    (h : ReadsAs rest ss) : ReadsAs (c :: cs) (s :: ss) := by
  intro fuel hfuel
  obtain ⟨fuel, rfl⟩ := Nat.exists_eq_add_one_of_ne_zero (Nat.ne_zero_of_lt hfuel)
  have hblanks : dropBlanks (c :: cs) = c :: cs := by
    rw [dropBlanks, List.dropWhile_cons_of_neg (by simp [hc])]
  have hmore := h fuel (by omega)
  rw [readStatements]
  · simp [hblanks, hempty, hs, hmore]
  · simp

theorem ReadsAs.break (h : ReadsAs rest ss) : ReadsAs ('\n' :: rest) ss := by
  intro fuel hfuel
  obtain ⟨fuel, rfl⟩ := Nat.exists_eq_add_one_of_ne_zero (Nat.ne_zero_of_lt hfuel)
  have hblanks : dropBlanks ('\n' :: rest) = '\n' :: rest := by simp [dropBlanks, isBlank]
  have hmore := h fuel (Nat.lt_of_succ_lt_succ hfuel)
  rw [readStatements]
  · simp [hblanks, isEmptyLine, endLine_break, hmore]
  · simp

theorem isEmptyLine_of_isKeyChar {c : Char} (hc : isKeyChar c = true) (cs : List Char) :
    isEmptyLine (c :: cs) = false := by
  have hneq (a : Char) (ha : isKeyChar a = false) : c ≠ a := ne_of_isKeyChar hc ha
  have hmarks : c ≠ '#' ∧ c ≠ '\n' ∧ c ≠ '\r' :=
    ⟨hneq _ (by decide), hneq _ (by decide), hneq _ (by decide)⟩
  unfold isEmptyLine
  split <;> simp_all

theorem ReadsAs.entryLine (h : ReadsAs rest ss) (hkey : IsBare key) (hv : Writes text v) :
    ReadsAs (entryLine key text ++ rest) (.entry [key] v :: ss) := by
  have hread := readStatement_entryLine hkey hv rest
  have hlength : rest.length < (Config.entryLine key text ++ rest).length := by
    simp [Config.entryLine]
    omega
  obtain ⟨first, more, hcons, hfirst⟩ := hkey.cons
  have hline : Config.entryLine key text ++ rest =
      first :: (more ++ [' ', '=', ' '] ++ text ++ ['\n'] ++ rest) := by
    simp [Config.entryLine, hcons]
  rw [hline] at hread hlength ⊢
  exact h.cons (isBlank_of_isKeyChar hfirst) (isEmptyLine_of_isKeyChar hfirst _) hread hlength

theorem ReadsAs.headerLine (h : ReadsAs rest ss) (hkey : IsBare key) :
    ReadsAs (headerLine key ++ rest) (.listedTable [key] :: ss) := by
  have hline : Toml.headerLine key ++ rest =
      '\n' :: '[' :: '[' :: (key.toList ++ ']' :: ']' :: '\n' :: rest) := by
    simp [Toml.headerLine]
  rw [hline]
  exact (h.cons (by decide) rfl (readStatement_header hkey rest) (by simp; omega)).break

/-- A text that is read from its first character on is that of a document. -/
theorem ReadsAs.statements_eq (h : ReadsAs cs ss) (hmark : cs.head? ≠ some '\ufeff') :
    statements cs = some ss := by
  unfold statements
  split
  · contradiction
  · exact h _ (Nat.lt_succ_self _)

end OutputArranger.Toml
