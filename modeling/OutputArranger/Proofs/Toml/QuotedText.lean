import OutputArranger.Toml.Text

/-!
# Strings read back

Every text is written in a form from which it is read back, whatever follows it, as long as that is
no quote: quotes that belong to the text may stand right before those that close it, so one more
would be taken for a part of it.
-/

namespace OutputArranger.Toml.Text

variable {c : Char} {cs rest : List Char} {multi : Bool}

@[simp] theorem push_some (c : Char) (text rest : List Char) :
    push c (some (text, rest)) = some (c :: text, rest) := rfl

/-! ## Escapes -/

/-- What the two readers of text between double quotes have in common. -/
structure ReadsEscapes (read : List Char → Option (List Char × List Char)) : Prop where
  plain {c : Char} (rest : List Char) : isPlain c = true → c ≠ '"' → c ≠ '\\' →
    read (c :: rest) = push c (read rest)
  simple {c x : Char} (rest : List Char) : simpleEscape? c = some x →
    read ('\\' :: c :: rest) = push x (read rest)
  code {a b c d x : Char} (rest : List Char) : charOfHex? [a, b, c, d] = some x →
    read ('\\' :: 'u' :: a :: b :: c :: d :: rest) = push x (read rest)

/-- None of the marks of a code point is an escape of its own. -/
theorem simpleEscape?_eq_some {x : Char} (h : simpleEscape? c = some x) :
    c ≠ 'x' ∧ c ≠ 'u' ∧ c ≠ 'U' := by
  refine ⟨?_, ?_, ?_⟩ <;> rintro rfl <;> simp [simpleEscape?] at h

theorem readsEscapes_readBasic : ReadsEscapes readBasic where
  plain rest hplain hquote hslash := by
    rw [readBasic.eq_def]
    split <;> simp_all
  simple rest hx := by
    obtain ⟨hx', hu, hU⟩ := simpleEscape?_eq_some hx
    simp [readBasic, hx, hx', hu, hU]
  code rest hx := by
    rw [readBasic.eq_def]
    simp [hx]

theorem readsEscapes_readMultiBasic : ReadsEscapes (readMultiBasic false) where
  plain {c} rest hplain hquote hslash := by
    have hreturn : c ≠ '\r' := by
      rintro rfl
      exact absurd hplain (by decide)
    rw [readMultiBasic.eq_def]
    split <;> simp_all
  simple rest hx := by
    obtain ⟨hx', hu, hU⟩ := simpleEscape?_eq_some hx
    simp [readMultiBasic, hx, hx', hu, hU]
  code rest hx := by
    rw [readMultiBasic.eq_def]
    simp [hx]

theorem charOfHex?_hexDigits : ∀ n < 128, charOfHex? (hexDigits n) = some (Char.ofNat n) := by
  decide +kernel

/-- An escape is a letter behind a backslash, or the code point of a character. -/
theorem escape?_eq_some {e : List Char} (h : escape? multi c = some e) :
    (∃ letter, e = ['\\', letter] ∧ simpleEscape? letter = some c) ∨
      c.toNat < 128 ∧ e = '\\' :: 'u' :: hexDigits c.toNat := by
  unfold escape? at h
  repeat' split at h
  all_goals cases h
  all_goals subst_vars
  · exact .inl ⟨_, rfl, by decide⟩
  · exact .inl ⟨_, rfl, by decide⟩
  · exact .inl ⟨_, rfl, by decide⟩
  · exact .inl ⟨_, rfl, by decide⟩
  · exact .inl ⟨_, rfl, by decide⟩
  · exact .inl ⟨_, rfl, by decide⟩
  · exact .inr ⟨by omega, rfl⟩

theorem escape?_eq_none (h : escape? multi c = none) :
    multi = true ∧ c = '\n' ∨ isPlain c = true ∧ c ≠ '\\' ∧ c ≠ '\n' := by
  unfold escape? at h
  unfold isPlain
  repeat' split at h
  all_goals simp_all

theorem ReadsEscapes.escape {read : List Char → Option (List Char × List Char)}
    (h : ReadsEscapes read) {e : List Char} (he : escape? multi c = some e) (rest : List Char) :
    read (e ++ rest) = push c (read rest) := by
  obtain ⟨letter, rfl, hletter⟩ | ⟨hc, rfl⟩ := escape?_eq_some he
  · exact h.simple rest hletter
  · have hcode := charOfHex?_hexDigits c.toNat hc
    rw [Char.ofNat_toNat] at hcode
    exact h.code rest hcode

/-! ## The forms on one line -/

theorem readBasic_escaped (quotes : Nat) (cs rest : List Char) :
    readBasic (escaped false quotes cs ++ '"' :: rest) = some (cs, rest) := by
  induction cs generalizing quotes with
  | nil => rfl
  | cons c cs ih =>
      have hread := readsEscapes_readBasic
      unfold escaped
      split
      · rename_i hquote
        have hescape : simpleEscape? '"' = some '"' := by decide
        rw [hquote, if_neg (by simp), List.cons_append, List.cons_append, hread.simple _ hescape,
          ih,
          push_some]
      · rename_i hquote
        cases he : escape? false c with
        | some e =>
            dsimp only
            rw [List.append_assoc, hread.escape he, ih, push_some]
        | none =>
            obtain ⟨hmulti, _⟩ | ⟨hplain, hslash, _⟩ := escape?_eq_none he
            · contradiction
            · dsimp only
              rw [List.cons_append, hread.plain _ hplain hquote hslash, ih, push_some]

theorem readLiteral_append (hcs : ∀ c ∈ cs, isPlain c = true ∧ c ≠ '\'') (rest : List Char) :
    readLiteral (cs ++ '\'' :: rest) = some (cs, rest) := by
  induction cs with
  | nil => rfl
  | cons c cs ih =>
      obtain ⟨⟨hplain, hquote⟩, hcs⟩ := List.forall_mem_cons.mp hcs
      rw [List.cons_append, readLiteral.eq_def]
      simp [hplain, ih hcs]

/-! ## The triple forms -/

theorem foldr_push_some (text cs rest : List Char) :
    text.foldr push (some (cs, rest)) = some (text ++ cs, rest) := by
  induction text with
  | nil => rfl
  | cons c text ih => rw [List.foldr_cons, ih, push_some, List.cons_append]

section Quotes

variable {q : Char} {quotes longest : Nat}

/-- Up to two quotes may stand before the ones that close a text. -/
theorem closing_replicate (hrest : rest.head? ≠ some q) (hquotes : quotes ≤ 2) :
    closing q (List.replicate quotes q ++ rest) = (List.replicate quotes q, rest) := by
  match quotes, rest with
  | 0, [] => rfl
  | 0, [a] => simpa [closing] using hrest
  | 0, a :: b :: rest =>
      have ha : a ≠ q := by simpa using hrest
      simp [closing, ha]
  | 1, [] => simp [closing]
  | 1, a :: rest => simpa [closing] using hrest
  | 2, rest => simp [closing]

theorem le_longestRun (q : Char) (longest quotes : Nat) (cs : List Char) :
    longest ≤ longestRun q longest quotes cs := by
  induction cs generalizing longest quotes with
  | nil => exact Nat.le_refl _
  | cons c cs ih =>
      unfold longestRun
      split
      · exact Nat.le_trans (Nat.le_max_left ..) (ih ..)
      · exact ih ..

/-- A quote lengthens the run that it is part of. -/
theorem lt_longestRun (q : Char) (longest quotes : Nat) (cs : List Char) :
    quotes < longestRun q longest quotes (q :: cs) := by
  rw [longestRun, if_pos rfl]
  exact Nat.lt_of_lt_of_le (Nat.lt_of_succ_le (Nat.le_max_right ..)) (le_longestRun ..)

theorem longestRun_ne_zero (hq : q ∈ cs) : longestRun q longest quotes cs ≠ 0 := by
  induction cs generalizing longest quotes with
  | nil => exact absurd hq List.not_mem_nil
  | cons c cs ih =>
      by_cases hc : c = q
      · rw [hc]
        exact Nat.ne_of_gt (Nat.lt_of_le_of_lt (Nat.zero_le _) (lt_longestRun ..))
      · rw [longestRun, if_neg hc]
        exact ih ((List.mem_cons.mp hq).resolve_left (Ne.symm hc))

end Quotes

/-- What the two readers of triple forms have in common. -/
structure ReadsTriple (q : Char) (read : List Char → Option (List Char × List Char)) : Prop where
  one {rest : List Char} : (∀ more, rest ≠ q :: q :: more) → read (q :: rest) = push q (read rest)
  three (rest : List Char) : read (q :: q :: q :: rest) = some (closing q rest)

theorem readsTriple_readMultiBasic : ReadsTriple '"' (readMultiBasic false) where
  one hrest := by
    have hplain : isPlain '"' = true := by decide
    simp [readMultiBasic, hrest, hplain]
  three rest := by rw [readMultiBasic]

theorem readsTriple_readMultiLiteral : ReadsTriple '\'' readMultiLiteral where
  one hrest := by
    have hplain : isPlain '\'' = true := by decide
    simp [readMultiLiteral, hrest, hplain]
  three rest := by rw [readMultiLiteral]

section Quotes

variable {q : Char} {read : List Char → Option (List Char × List Char)} {quotes : Nat}

/-- Before anything else, up to two quotes are part of the text. -/
theorem ReadsTriple.replicate (h : ReadsTriple q read) (hquotes : quotes ≤ 2)
    (hrest : rest.head? ≠ some q) :
    read (List.replicate quotes q ++ rest) = (List.replicate quotes q).foldr push (read rest) := by
  match quotes with
  | 0 => rfl
  | 1 => exact h.one (by rintro more rfl; simp at hrest)
  | 2 =>
      refine (h.one ?_).trans (congrArg (push q) (h.one ?_))
      · intro more hmore
        have htail : rest = q :: more := (List.cons.inj hmore).2
        rw [htail] at hrest
        exact hrest rfl
      · rintro more rfl
        exact hrest rfl

/-- Before the quotes that close a text, too. -/
theorem ReadsTriple.closing (h : ReadsTriple q read) (hquotes : quotes ≤ 2)
    (hrest : rest.head? ≠ some q) :
    read (List.replicate quotes q ++ q :: q :: q :: rest) =
      some (List.replicate quotes q, rest) := by
  have hswap : List.replicate quotes q ++ q :: q :: q :: rest =
      q :: q :: q :: (List.replicate quotes q ++ rest) := by
    match quotes with
    | 0 => rfl
    | 1 => rfl
    | 2 => rfl
  rw [hswap, h.three, closing_replicate hrest hquotes]

end Quotes

/-- The quotes that have just been written may turn out to stand before the ones that close the
text, so they are read together with what follows them. -/
theorem readMultiBasic_escaped (hrest : rest.head? ≠ some '"') (cs : List Char) :
    ∀ quotes ≤ 2, readMultiBasic false
        (List.replicate quotes '"' ++ (escaped true quotes cs ++ '"' :: '"' :: '"' :: rest)) =
      some (List.replicate quotes '"' ++ cs, rest) := by
  have hread := readsEscapes_readMultiBasic
  have htriple := readsTriple_readMultiBasic
  induction cs with
  | nil =>
      intro quotes hquotes
      rw [escaped, List.nil_append, htriple.closing hquotes hrest, List.append_nil]
  | cons c cs ih =>
      intro quotes hquotes
      have hnext : readMultiBasic false (escaped true 0 cs ++ '"' :: '"' :: '"' :: rest) =
          some (cs, rest) := ih 0 (Nat.zero_le 2)
      unfold escaped
      split
      · rename_i hquote
        split
        · rename_i hroom
          have hmore := ih (quotes + 1) hroom.2
          rw [List.replicate_succ'] at hmore
          simpa [hquote] using hmore
        · have hescape : simpleEscape? '"' = some '"' := by decide
          rw [hquote, List.cons_append, List.cons_append,
            htriple.replicate hquotes (by simp), hread.simple _ hescape, hnext, push_some,
            foldr_push_some]
      · rename_i hquote
        cases he : escape? true c with
        | some e =>
            have hhead :
                (e ++ escaped true 0 cs ++ '"' :: '"' :: '"' :: rest).head? ≠ some '"' := by
              obtain ⟨letter, rfl, _⟩ | ⟨_, rfl⟩ := escape?_eq_some he <;> simp
            dsimp only
            rw [htriple.replicate hquotes hhead, List.append_assoc, hread.escape he, hnext,
              push_some, foldr_push_some]
        | none =>
            have hplain : readMultiBasic false
                (c :: (escaped true 0 cs ++ '"' :: '"' :: '"' :: rest)) = some (c :: cs, rest) := by
              obtain ⟨_, rfl⟩ | ⟨hplain, hslash, _⟩ := escape?_eq_none he
              · simp [readMultiBasic, hnext]
              · rw [hread.plain _ hplain hquote hslash, hnext, push_some]
            dsimp only
            rw [List.cons_append, htriple.replicate hquotes (by simpa using hquote), hplain,
              foldr_push_some]

theorem isPlain_of_isControl_eq_false (hc : isControl c = false) : c = '\n' ∨ isPlain c = true := by
  unfold isControl at hc
  unfold isPlain
  simp only [Bool.or_eq_false_iff, Bool.and_eq_false_iff, decide_eq_false_iff_not, Bool.or_eq_true,
    Bool.and_eq_true, decide_eq_true_eq, ne_eq, Decidable.not_not] at hc ⊢
  by_cases hlow : c.toNat < 32
  · obtain ⟨(habsurd | htab) | hbreak, _⟩ := hc
    · exact absurd hlow habsurd
    · exact .inr (.inl htab)
    · exact .inl hbreak
  · exact .inr (.inr ⟨by omega, hc.2⟩)

theorem ne_return_of_isControl_eq_false (hc : isControl c = false) : c ≠ '\r' := by
  rintro rfl
  exact absurd hc (by decide)

theorem readMultiLiteral_append (hrest : rest.head? ≠ some '\'')
    (hcs : ∀ c ∈ cs, isControl c = false) :
    ∀ quotes ≤ 2, ∀ longest, longestRun '\'' longest quotes cs ≤ 2 →
      readMultiLiteral (List.replicate quotes '\'' ++ (cs ++ '\'' :: '\'' :: '\'' :: rest)) =
        some (List.replicate quotes '\'' ++ cs, rest) := by
  have htriple := readsTriple_readMultiLiteral
  induction cs with
  | nil =>
      intro quotes hquotes longest _
      rw [List.nil_append, htriple.closing hquotes hrest, List.append_nil]
  | cons c cs ih =>
      intro quotes hquotes longest hrun
      obtain ⟨hcontrol, hcs⟩ := List.forall_mem_cons.mp hcs
      by_cases hquote : c = '\''
      · have hroom : quotes + 1 ≤ 2 := by
          rw [hquote] at hrun
          exact Nat.le_trans (lt_longestRun ..) hrun
        rw [longestRun, if_pos hquote] at hrun
        have hmore := ih hcs (quotes + 1) hroom _ hrun
        rw [List.replicate_succ'] at hmore
        simpa [hquote] using hmore
      · rw [longestRun, if_neg hquote] at hrun
        have hnext : readMultiLiteral (cs ++ '\'' :: '\'' :: '\'' :: rest) = some (cs, rest) :=
          ih hcs 0 (Nat.zero_le 2) _ hrun
        have hread : readMultiLiteral (c :: (cs ++ '\'' :: '\'' :: '\'' :: rest)) =
            some (c :: cs, rest) := by
          have hreturn := ne_return_of_isControl_eq_false hcontrol
          have hplain := isPlain_of_isControl_eq_false hcontrol
          rw [readMultiLiteral.eq_def]
          split <;> simp_all
        rw [List.cons_append, htriple.replicate hquotes (by simpa using hquote), hread,
          foldr_push_some]

/-! ## All forms -/

theorem formFor_eq_literal (h : formFor cs = .literal) :
    cs ≠ [] ∧ ∀ c ∈ cs, isPlain c = true ∧ c ≠ '\'' := by
  refine ⟨?_, ?_⟩
  · rintro rfl
    exact absurd h (by decide)
  · unfold formFor at h
    dsimp only at h
    repeat' split at h
    all_goals try contradiction
    rename_i hsingle
    simp only [Bool.and_eq_true, Bool.not_eq_true', List.any_eq_false, List.contains_eq_mem,
      decide_eq_false_iff_not, beq_iff_eq] at hsingle
    obtain ⟨⟨hcontrol, hbreak⟩, hquote⟩ := hsingle
    intro c hc
    refine ⟨?_, ?_⟩
    · refine (isPlain_of_isControl_eq_false (Bool.eq_false_iff.mpr (hcontrol c hc))).resolve_left ?_
      rintro rfl
      exact hbreak hc
    · rintro rfl
      exact longestRun_ne_zero hc hquote

theorem formFor_eq_multiLiteral (h : formFor cs = .multiLiteral) :
    (∀ c ∈ cs, isControl c = false) ∧ longestRun '\'' 0 0 cs ≤ 2 := by
  unfold formFor at h
  dsimp only at h
  repeat' split at h
  all_goals try contradiction
  rename_i htriple
  simp only [Bool.and_eq_true, Bool.not_eq_true', List.any_eq_false, decide_eq_true_eq] at htriple
  exact ⟨fun c hc => Bool.eq_false_iff.mpr (htriple.1 c hc), htriple.2⟩

theorem dropBreak_eq_self (h : ∀ c ∈ cs.head?, c ≠ '\n' ∧ c ≠ '\r') : dropBreak cs = cs := by
  unfold dropBreak
  split <;> simp_all

/-- The line break that is written before a text with line breaks is dropped again. -/
theorem dropBreak_opening (hbody : '\n' ∉ cs → ∀ c ∈ rest.head?, c ≠ '\n' ∧ c ≠ '\r') :
    dropBreak (opening cs ++ rest) = rest := by
  unfold opening
  split
  · rfl
  · rename_i hbreak
    exact dropBreak_eq_self (hbody (by simpa using hbreak))

/-- What is written between double quotes starts with a backslash or with the first character. -/
theorem escaped_cons (multi : Bool) (c : Char) (cs : List Char) :
    ∃ first more, escaped multi 0 (c :: cs) = first :: more ∧
      (first = '\\' ∨
        first = c ∧ (c = '"' → multi = true) ∧ (c ≠ '"' → escape? multi c = none)) := by
  unfold escaped
  split
  · rename_i hquote
    split
    · rename_i hmulti
      exact ⟨_, _, rfl, .inr ⟨hquote.symm, fun _ => hmulti.1, absurd hquote⟩⟩
    · exact ⟨_, _, rfl, .inl rfl⟩
  · rename_i hquote
    cases he : escape? multi c with
    | some e =>
        obtain ⟨letter, rfl, _⟩ | ⟨_, rfl⟩ := escape?_eq_some he <;> exact ⟨_, _, rfl, .inl rfl⟩
    | none => exact ⟨_, _, rfl, .inr ⟨rfl, fun h => absurd h hquote, fun _ => rfl⟩⟩

theorem escaped_ne_quotes (hrest : rest.head? ≠ some '"') (cs more : List Char) :
    escaped false 0 cs ++ '"' :: rest ≠ '"' :: '"' :: more := by
  intro h
  cases cs with
  | nil =>
      rw [(List.cons.inj h).2] at hrest
      exact hrest rfl
  | cons c cs =>
      obtain ⟨first, others, hwritten, hfirst⟩ := escaped_cons false c cs
      rw [hwritten] at h
      obtain rfl := (List.cons.inj h).1
      obtain hslash | ⟨rfl, hmulti, _⟩ := hfirst
      · contradiction
      · exact Bool.noConfusion (hmulti rfl)

theorem head?_escaped (hbreak : '\n' ∉ cs) :
    ∀ c ∈ (escaped true 0 cs ++ '"' :: rest).head?, c ≠ '\n' ∧ c ≠ '\r' := by
  intro c hc
  cases cs with
  | nil =>
      obtain rfl := Option.some.inj hc
      decide
  | cons d cs =>
      obtain ⟨first, others, hwritten, hfirst⟩ := escaped_cons true d cs
      rw [hwritten] at hc
      obtain rfl := Option.some.inj hc
      obtain rfl | ⟨rfl, _, hescape⟩ := hfirst
      · decide
      · refine ⟨fun hc => hbreak (hc ▸ List.mem_cons_self), ?_⟩
        rintro rfl
        exact absurd (hescape (by decide)) (by decide)

theorem read_double (h : ∀ more, rest ≠ '"' :: '"' :: more) :
    read ('"' :: rest) = readBasic rest := by
  rw [read.eq_def]
  split <;> simp_all

theorem read_single (h : ∀ more, rest ≠ '\'' :: '\'' :: more) :
    read ('\'' :: rest) = readLiteral rest := by
  rw [read.eq_def]
  split <;> simp_all

/-- What is written for a text is read as this text, and nothing of what follows. -/
theorem read_encode (cs : List Char) (hdouble : rest.head? ≠ some '"')
    (hsingle : rest.head? ≠ some '\'') : read (encode cs ++ rest) = some (cs, rest) := by
  unfold encode
  cases hform : formFor cs with
  | basic =>
      dsimp only
      rw [List.cons_append, List.append_assoc, List.singleton_append,
        read_double (escaped_ne_quotes hdouble cs), readBasic_escaped]
  | literal =>
      obtain ⟨hne, hcs⟩ := formFor_eq_literal hform
      have hopening (more : List Char) : cs ++ '\'' :: rest ≠ '\'' :: '\'' :: more := by
        obtain ⟨c, others, rfl⟩ := List.exists_cons_of_ne_nil hne
        intro h
        exact (hcs c List.mem_cons_self).2 (List.cons.inj h).1
      dsimp only
      rw [List.cons_append, List.append_assoc, List.singleton_append, read_single hopening,
        readLiteral_append hcs]
  | multiBasic =>
      have hread := readMultiBasic_escaped hdouble cs 0 (Nat.zero_le 2)
      have hdrop : dropBreak (opening cs ++ (escaped true 0 cs ++ '"' :: '"' :: '"' :: rest)) =
          escaped true 0 cs ++ '"' :: '"' :: '"' :: rest := dropBreak_opening head?_escaped
      simpa [read, hdrop] using hread
  | multiLiteral =>
      obtain ⟨hcs, hrun⟩ := formFor_eq_multiLiteral hform
      have hread := readMultiLiteral_append hsingle hcs 0 (Nat.zero_le 2) 0 hrun
      have hdrop : dropBreak (opening cs ++ (cs ++ '\'' :: '\'' :: '\'' :: rest)) =
          cs ++ '\'' :: '\'' :: '\'' :: rest := by
        refine dropBreak_opening fun hbreak c hc => ?_
        cases cs with
        | nil =>
            obtain rfl := Option.some.inj hc
            decide
        | cons d others =>
            obtain rfl := Option.some.inj hc
            exact ⟨fun hd => hbreak (hd ▸ List.mem_cons_self),
              ne_return_of_isControl_eq_false (hcs d List.mem_cons_self)⟩
      simpa [read, hdrop] using hread

end OutputArranger.Toml.Text
