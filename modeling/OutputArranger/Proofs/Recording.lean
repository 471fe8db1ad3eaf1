import Mathlib.Data.List.Basic
import OutputArranger.Session.Recording

/-!
# Reading a recording back

A recording is written as text and read as bytes that are cut at the line feeds. If each of its
lines is a single line of text that can be read back, replaying the file is replaying the
configuration and the events.
-/

namespace OutputArranger

/-! ## Bytes of a text -/

theorem toList_loop_eq (bs : ByteArray) (i : Nat) (read : List UInt8) :
    ByteArray.toList.loop bs i read = read.reverse ++ bs.data.toList.drop i := by
  -- the loop collects the bytes backwards; the library says nothing about it
  fun_induction ByteArray.toList.loop bs i read with
  | case1 i read hi ih =>
      have hlength : i < bs.data.toList.length := by simpa using hi
      have hget : bs.get! i = bs.data.toList[i] := by
        simp only [ByteArray.get!, Array.getElem_toList]
        exact getElem!_pos bs.data i hi
      rw [ih, List.drop_eq_getElem_cons hlength, List.reverse_cons, List.append_assoc, hget]
      rfl
  | case2 i read hend =>
      rw [List.drop_eq_nil_of_le (by simpa using Nat.le_of_not_lt hend), List.append_nil]

theorem toList_eq_data (bs : ByteArray) : bs.toList = bs.data.toList := by
  rw [ByteArray.toList, toList_loop_eq]
  rfl

theorem toList_toUTF8_append (s t : String) :
    (s ++ t).toUTF8.toList = s.toUTF8.toList ++ t.toUTF8.toList := by
  simp only [toList_eq_data, String.toUTF8, String.toByteArray_append,
    ByteArray.toList_data_append]

theorem toList_toUTF8_eq (s : String) :
    s.toUTF8.toList = s.toList.flatMap String.utf8EncodeChar := by
  rw [toList_eq_data, String.toUTF8, ← String.utf8Encode_toList, List.utf8Encode,
    List.toList_data_toByteArray]

theorem fromUTF8?_toUTF8 (s : String) : String.fromUTF8? ⟨s.toUTF8.toList.toArray⟩ = some s := by
  rw [toList_eq_data, Array.toArray_toList]
  exact dif_pos s.isValidUTF8

/-- A byte below 128 stands for itself and is no part of another character. -/
theorem eq_of_mem_utf8EncodeChar {c : Char} {b : UInt8} (hb : b.toNat < 128)
    (h : b ∈ String.utf8EncodeChar c) : c.val.toNat = b.toNat := by
  unfold String.utf8EncodeChar at h
  dsimp only at h
  have high {n : Nat} (hn : 128 ≤ n % 256) : b ≠ UInt8.ofNat n := by
    rintro rfl
    rw [UInt8.toNat_ofNat'] at hb
    omega
  split at h
  · rw [List.mem_singleton.mp h, UInt8.toNat_ofNat']
    omega
  · exfalso
    split at h
    · simp only [List.mem_cons, List.not_mem_nil, or_false] at h
      rcases h with h | h
      · exact high (by omega) h
      · exact high (by omega) h
    · split at h
      · simp only [List.mem_cons, List.not_mem_nil, or_false] at h
        rcases h with h | h | h
        · exact high (by omega) h
        · exact high (by omega) h
        · exact high (by omega) h
      · simp only [List.mem_cons, List.not_mem_nil, or_false] at h
        rcases h with h | h | h | h
        · exact high (by omega) h
        · exact high (by omega) h
        · exact high (by omega) h
        · exact high (by omega) h

/-! ## Lines -/

/-- A text that is read as one line when a line feed follows it. -/
def IsLine (s : String) : Prop := '\n' ∉ s.toList ∧ s.toList.getLast? ≠ some '\r'

namespace Replay

theorem cutLines_append {line : List UInt8} (hline : 10 ∉ line) (read rest : List UInt8) :
    cutLines read (line ++ 10 :: rest) = endLine (line.reverse ++ read) :: cutLines [] rest := by
  induction line generalizing read with
  | nil => simp [cutLines]
  | cons b line ih =>
      simp only [List.mem_cons, not_or] at hline
      rw [List.cons_append, cutLines, if_neg (Ne.symm hline.1), ih hline.2, List.reverse_cons,
        List.append_assoc]
      rfl

theorem endLine_reverse {line : List UInt8} (h : line.getLast? ≠ some 13) :
    endLine line.reverse = line := by
  unfold endLine
  split
  · rename_i rest hreverse
    rw [← List.head?_reverse, hreverse] at h
    exact absurd rfl h
  · rw [List.reverse_reverse]

theorem cutLines_line {s : String} (h : IsLine s) (rest : List UInt8) :
    cutLines [] ((s ++ "\n").toUTF8.toList ++ rest) = s.toUTF8.toList :: cutLines [] rest := by
  have hbytes : 10 ∉ s.toUTF8.toList := by
    intro hmem
    rw [toList_toUTF8_eq, List.mem_flatMap] at hmem
    obtain ⟨c, hc, hmem⟩ := hmem
    have hvalue := eq_of_mem_utf8EncodeChar (by decide) hmem
    obtain rfl : c = '\n' := Char.ext (UInt32.toNat_inj.mp hvalue)
    exact h.1 hc
  have hlast : s.toUTF8.toList.getLast? ≠ some 13 := by
    intro hlast
    rw [toList_toUTF8_eq] at hlast
    rcases List.eq_nil_or_concat s.toList with hnil | ⟨before, c, hsplit⟩
    · rw [hnil] at hlast
      simp at hlast
    · have hsome : String.utf8EncodeChar c ≠ [] := by
        intro hnil
        have hlength := String.length_utf8EncodeChar c
        rw [hnil] at hlength
        exact absurd hlength (Nat.ne_of_lt (Char.utf8Size_pos c))
      rw [hsplit, List.concat_eq_append, List.flatMap_append, List.flatMap_singleton,
        List.getLast?_append_of_ne_nil _ hsome] at hlast
      have hvalue := eq_of_mem_utf8EncodeChar (by decide) (List.mem_of_getLast? hlast)
      obtain rfl : c = '\r' := Char.ext (UInt32.toNat_inj.mp hvalue)
      exact h.2 (by rw [hsplit, List.concat_eq_append, List.getLast?_concat])
  have hfeed : ("\n" : String).toUTF8.toList = [10] := by
    rw [toList_toUTF8_eq]
    rfl
  rw [toList_toUTF8_append, hfeed, List.append_assoc, List.singleton_append,
    cutLines_append hbytes, List.append_nil, endLine_reverse hlast]

theorem cutLines_lines {lines : List String} (h : ∀ s ∈ lines, IsLine s) :
    cutLines [] (String.join (lines.map (· ++ "\n"))).toUTF8.toList =
      lines.map fun s => s.toUTF8.toList := by
  induction lines with
  | nil =>
      rw [List.map_nil, toList_toUTF8_eq]
      rfl
  | cons s rest ih =>
      rw [List.map_cons, String.join_cons, toList_toUTF8_append,
        cutLines_line (h s List.mem_cons_self), ih fun t ht => h t (List.mem_cons_of_mem _ ht),
        List.map_cons]

end Replay

/-! ## Recordings -/

/-- Everything in a recording is a line of its own that can be read back. -/
structure Recording.ReadsBack (r : Recording) : Prop where
  line : ∀ s ∈ r.lines, IsLine s
  config : readConfig (configLine r.config) = some r.config
  event : ∀ e ∈ r.events.toList, readEvent (eventLine e) = some e

namespace Replay

theorem linesFrom_eq {events : List Event}
    (hread : ∀ e ∈ events, Recording.readEvent (Recording.eventLine e) = some e) (r : Replay)
    (number : Nat) :
    r.linesFrom number (events.map fun e => some (Recording.eventLine e)) =
      (events.foldlM step r).mapError .session := by
  induction events generalizing r number with
  | nil => rfl
  | cons e rest ih =>
      have hrest := ih fun e he => hread e (List.mem_cons_of_mem _ he)
      rw [List.map_cons, linesFrom, line, List.foldlM_cons]
      simp only [hread e List.mem_cons_self]
      cases r.step e with
      | error fault => rfl
      | ok next => exact hrest next (number + 1)

/-- Replaying the file of a recording is replaying its configuration and events. -/
theorem ofBytes_text {r : Recording} (h : r.ReadsBack) :
    ofBytes r.text.toUTF8 = (ofEvents r.config r.events.toList).mapError .session := by
  have hlines : (cutLines [] r.text.toUTF8.toList).map
      (fun line => String.fromUTF8? ⟨line.toArray⟩) = r.lines.map some := by
    rw [Recording.text, cutLines_lines h.line, List.map_map]
    exact List.map_congr_left fun s _ => fromUTF8?_toUTF8 s
  rw [ofBytes, hlines, Recording.lines, List.map_cons, ofLines]
  simp only [h.config, List.map_map]
  exact linesFrom_eq h.event _ 2

end Replay

end OutputArranger
