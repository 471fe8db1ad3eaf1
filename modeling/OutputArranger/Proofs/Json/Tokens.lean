import Mathlib.Data.List.Chain
import Mathlib.Tactic.SplitIfs
import OutputArranger.Json.Writer

/-!
# Tokens that are written one after the other

The reader of tokens learns that a word has ended only from the mark or the blank that follows it.
So tokens that are written without anything between them are told apart again as long as every word
is followed by a mark. A string may hold anything. Of numbers it is not evident that their text is
read as the same number; this is asked of each of them on its own.
-/

namespace OutputArranger.Json

/-! ## Marks and words -/

namespace Token

/-- The punctuation marks. -/
def isMark : Token → Bool
  | .openBrace | .closeBrace | .openBracket | .closeBracket | .comma | .colon => true
  | _ => false

/-- What ends only where something else begins. -/
def isWord : Token → Bool
  | .null | .bool _ | .number _ => true
  | _ => false

theorem text_of_isMark {t : Token} (ht : t.isMark = true) :
    ∃ c, t.text = [c] ∧ ofMark? c = some t := by
  cases t <;> first | exact ⟨_, rfl, rfl⟩ | simp [isMark] at ht

theorem isBlank_of_ofMark? {c : Char} {t : Token} (hc : ofMark? c = some t) :
    isBlank c = false := by
  unfold ofMark? at hc
  repeat' split at hc
  all_goals first | (subst c; rfl) | simp at hc

end Token

/-- The text of a number is read as this number. -/
def Number.ReadsBack (n : Number) : Prop := tokenize (n.text.map some) = some [.number n]

instance (n : Number) : Decidable n.ReadsBack := inferInstanceAs (Decidable (_ = _))

/-! ## Running on -/

namespace Lexer

variable {s next : Lexer} {c : Char} {cs rest : List Char} {ts : List Token}

/-- The tokens of the text that is still to come. -/
def runText (s : Lexer) (cs : List Char) : Option (List Token) := s.run (cs.map some)

theorem runText_cons (s : Lexer) (c : Char) (rest : List Char) :
    s.runText (c :: rest) = match s.step c with
      | none => none
      | some (tokens, next) => (next.runText rest).map (tokens ++ ·) := rfl

/-- A character that completes no token. -/
theorem runText_silent (h : s.step c = some ([], next)) (rest : List Char) :
    s.runText (c :: rest) = next.runText rest := by
  rw [runText_cons, h]
  exact Option.map_id'

theorem runText_mark {t : Token} (hc : Token.ofMark? c = some t) (rest : List Char) :
    runText .between (c :: rest) = (runText .between rest).map (t :: ·) := by
  have hstep : step .between c = some ([t], .between) := by
    simp [step, Token.isBlank_of_ofMark? hc, begin, hc]
  rw [runText_cons, hstep]
  rfl

/-- A text that is complete on its own reads the same when a mark follows. -/
theorem runText_append (h : s.runText cs = some ts)
    (hrest : ∀ c ∈ rest.head?, (Token.ofMark? c).isSome = true) :
    s.runText (cs ++ rest) = (runText .between rest).map (ts ++ ·) := by
  induction cs generalizing s ts with
  | nil =>
      rw [List.nil_append]
      cases s with
      | between =>
          obtain rfl : [] = ts := Option.some.inj h
          exact Option.map_id'.symm
      | word read =>
          obtain ⟨t, hword, rfl⟩ := Option.map_eq_some_iff.mp h
          cases rest with
          | nil => simp [runText, run, finish, hword]
          | cons c rest =>
              obtain ⟨mark, hc⟩ := Option.isSome_iff_exists.mp (hrest c rfl)
              have hstep : step (.word read) c = some ([t, mark], .between) := by
                simp [step, Token.isBlank_of_ofMark? hc, hc, hword]
              rw [runText_cons, hstep, runText_mark hc, Option.map_map]
              rfl
      | _ => simp [runText, run, finish] at h
  | cons c cs ih =>
      rw [List.cons_append]
      rw [runText_cons] at h ⊢
      cases hstep : s.step c with
      | none => simp [hstep] at h
      | some result =>
          obtain ⟨tokens, next⟩ := result
          simp only [hstep] at h ⊢
          obtain ⟨more, hmore, rfl⟩ := Option.map_eq_some_iff.mp h
          rw [ih hmore, Option.map_map]
          congr 1
          funext us
          exact (List.append_assoc tokens more us).symm

end Lexer

/-! ## Strings -/

theorem hexValue?_digitChar : ∀ n < 16, hexValue? n.digitChar = some n := by decide

/-- A character is escaped by a character, by its code unit, or not at all. -/
theorem escaped_cases (c : Char) :
    (∃ e, escaped c = ['\\', e] ∧ simpleEscape? e = some c ∧ e ≠ 'u') ∨
      (c.toNat < 32 ∧ escaped c = '\\' :: 'u' :: hexDigits c.toNat) ∨
      (escaped c = [c] ∧ c ≠ '"' ∧ c ≠ '\\' ∧ ¬ c.toNat < 32) := by
  unfold escaped
  split_ifs with hquote hbackslash _ _ _ _ _ hcontrol
  rotate_right 2
  · exact Or.inr (Or.inl ⟨hcontrol, rfl⟩)
  · exact Or.inr (Or.inr ⟨rfl, hquote, hbackslash, hcontrol⟩)
  all_goals
    subst c
    exact Or.inl ⟨_, rfl, by decide, by decide⟩

namespace Lexer

theorem runText_unit {digits : List Nat} (hdigits : digits.length < 3) {digit : Nat}
    (hc : hexValue? c = some digit) (read rest : List Char) :
    runText (.unit read none digits) (c :: rest) =
      runText (.unit read none (digits ++ [digit])) rest := by
  refine runText_silent ?_ rest
  match digits with
  | [] | [_] | [_, _] => simp [step, hc]
  | _ :: _ :: _ :: _ =>
      simp only [List.length_cons] at hdigits
      omega

/-- The digits of a code unit that is no surrogate stand for its character. -/
theorem runText_hexDigits {n : Nat} (hn : n < 0xD800) (read rest : List Char) :
    runText (.unit read none []) (hexDigits n ++ rest) =
      runText (.string (Char.ofNat n :: read)) rest := by
  have hdigit (k : Nat) : hexValue? (k % 16).digitChar = some (k % 16) :=
    hexValue?_digitChar _ (Nat.mod_lt k (by decide))
  have hvalue : ((n / 4096 % 16 * 16 + n / 256 % 16) * 16 + n / 16 % 16) * 16 + n % 16 = n := by
    omega
  have hhigh : isHighSurrogate n = false := by simp [isHighSurrogate]; omega
  have hlow : isLowSurrogate n = false := by simp [isLowSurrogate]; omega
  simp only [hexDigits, List.map_cons, List.map_nil, List.cons_append, List.nil_append]
  rw [runText_unit (by simp) (hdigit _), runText_unit (by simp) (hdigit _),
    runText_unit (by simp) (hdigit _)]
  exact runText_silent (by simp [step, hdigit, hvalue, unitDone, hhigh, hlow]) rest

theorem runText_escaped (c : Char) (read rest : List Char) :
    runText (.string read) (escaped c ++ rest) = runText (.string (c :: read)) rest := by
  have hbegin (more : List Char) :
      runText (.string read) ('\\' :: more) = runText (.escape read) more :=
    runText_silent rfl more
  have hunit (more : List Char) :
      runText (.escape read) ('u' :: more) = runText (.unit read none []) more :=
    runText_silent rfl more
  rcases escaped_cases c with ⟨e, htext, he, hu⟩ | ⟨hcontrol, htext⟩ | ⟨htext, hplain⟩
  · rw [htext, List.cons_append, hbegin]
    exact runText_silent (by simp [step, hu, he]) rest
  · rw [htext, List.cons_append, List.cons_append, hbegin, hunit, runText_hexDigits (by omega),
      Char.ofNat_toNat]
  · rw [htext]
    exact runText_silent (by simp [step, hplain]) rest

/-- Whatever a string holds, its text is read up to the quote that closes it. -/
theorem runText_string (cs read rest : List Char) :
    runText (.string read) (cs.flatMap escaped ++ '"' :: rest) =
      (runText .between rest).map (.string (read.reverse ++ cs) :: ·) := by
  induction cs generalizing read with
  | nil =>
      rw [List.append_nil]
      rfl
  | cons c cs ih =>
      rw [List.flatMap_cons, List.append_assoc, runText_escaped, ih, List.reverse_cons,
        List.append_assoc]
      rfl

end Lexer

/-! ## Lists of tokens -/

/-- Tokens of which every word is followed by a mark, or by nothing. -/
def Separated : List Token → Prop :=
  List.IsChain fun t u => t.isWord = true → u.isMark = true

theorem head?_flatMap_text {ts : List Token} (hts : ∀ t ∈ ts.head?, t.isMark = true) :
    ∀ c ∈ (ts.flatMap Token.text).head?, (Token.ofMark? c).isSome = true := by
  cases ts with
  | nil => simp
  | cons t ts =>
      obtain ⟨c, htext, hc⟩ := Token.text_of_isMark (hts t rfl)
      simp [htext, hc]

theorem tokenize_of_isWord {t : Token} (ht : t.isWord = true)
    (hnumber : ∀ n, t = .number n → n.ReadsBack) : tokenize (t.text.map some) = some [t] := by
  cases t with
  | null => rfl
  | bool b => cases b <;> rfl
  | number n => exact hnumber n rfl
  | _ => simp [Token.isWord] at ht

/-- The text of a token is read as this token, and the reader can go on with what follows. -/
theorem Lexer.runText_token {t : Token} {rest : List Char}
    (hnumber : ∀ n, t = .number n → n.ReadsBack)
    (hrest : t.isWord = true → ∀ c ∈ rest.head?, (Token.ofMark? c).isSome = true) :
    runText .between (t.text ++ rest) = (runText .between rest).map (t :: ·) := by
  cases hword : t.isWord with
  | true => exact runText_append (tokenize_of_isWord hword hnumber) (hrest hword)
  | false =>
      cases hmark : t.isMark with
      | true =>
          obtain ⟨c, htext, hc⟩ := Token.text_of_isMark hmark
          rw [htext]
          exact runText_mark hc rest
      | false =>
          cases t with
          | string s =>
              have hquote (more : List Char) :
                  runText .between ('"' :: more) = runText (.string []) more :=
                runText_silent rfl more
              rw [Token.text, List.cons_append, List.append_assoc, hquote]
              exact runText_string s [] rest
          | garbled =>
              iterate 7 refine (runText_silent rfl _).trans ?_
              rfl
          | _ => simp [Token.isWord, Token.isMark] at hword hmark

/-- Separated tokens are told apart again. -/
theorem tokenize_flatMap_text {ts : List Token} (hts : Separated ts)
    (hnumbers : ∀ n, .number n ∈ ts → Number.ReadsBack n) :
    tokenize ((ts.flatMap Token.text).map some) = some ts := by
  induction ts with
  | nil => rfl
  | cons t ts ih =>
      obtain ⟨hnext, htail⟩ := List.isChain_cons.mp hts
      have hrest := ih htail fun n hn => hnumbers n (List.mem_cons_of_mem t hn)
      rw [tokenize, ← Lexer.runText] at hrest ⊢
      rw [List.flatMap_cons, Lexer.runText_token, hrest]
      · rfl
      · rintro n rfl
        exact hnumbers n List.mem_cons_self
      · intro hword
        exact head?_flatMap_text fun u hu => hnext u hu hword

end OutputArranger.Json
