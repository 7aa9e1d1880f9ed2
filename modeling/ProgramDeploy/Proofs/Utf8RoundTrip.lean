import Mathlib.Data.List.Forall2
import ProgramDeploy.Text.Utf8

namespace ProgramDeploy.Text.Utf8

def Follows (lead : UInt8) (follow : Bytes) : Prop :=
  ∃ intervals, continuation? lead = some intervals ∧
    List.Forall₂ (fun interval b => interval.1 ≤ b ∧ b ≤ interval.2) intervals follow

theorem agreeing_append {intervals : List (UInt8 × UInt8)} {follow : Bytes}
    (h : List.Forall₂ (fun interval b => interval.1 ≤ b ∧ b ≤ interval.2) intervals follow) (bs : Bytes) :
    agreeing intervals (follow ++ bs) = intervals.length := by
  induction h with
  | nil => rfl
  | cons hb _ ih => simp [agreeing, hb, ih]

theorem decodeFrom_follows (position : Nat) {lead : UInt8} {follow : Bytes} (h : Follows lead follow)
    (bs : Bytes) :
    decodeFrom position (lead :: (follow ++ bs)) =
      (decodeFrom (position + follow.length + 1) bs).map (assemble lead follow :: ·) := by
  obtain ⟨intervals, hlead, hfollow⟩ := h
  have hlength : intervals.length = follow.length := hfollow.length_eq
  rw [decodeFrom, hlead]
  simp only [agreeing_append hfollow, if_true, hlength, List.drop_left, List.take_left]
  cases decodeFrom (position + follow.length + 1) bs <;> rfl

def second (lead : UInt8) : UInt8 × UInt8 :=
  if lead = 0xe0 then (0xa0, 0xbf)
  else if lead = 0xed then (0x80, 0x9f)
  else if lead = 0xf0 then (0x90, 0xbf)
  else if lead = 0xf4 then (0x80, 0x8f)
  else (0x80, 0xbf)

theorem continuation?_two {lead : UInt8} (hlow : 0xc2 ≤ lead.toNat) (hhigh : lead.toNat < 0xe0) :
    continuation? lead = some [(0x80, 0xbf)] := by
  simp only [continuation?, UInt8.lt_iff_toNat_lt]
  rw [if_neg (by simp; omega), if_neg (by simp; omega), if_pos (by simpa using hhigh)]

theorem continuation?_three {lead : UInt8} (hlow : 0xe0 ≤ lead.toNat) (hhigh : lead.toNat < 0xf0) :
    continuation? lead = some [second lead, (0x80, 0xbf)] := by
  have hfour {b : UInt8} (hb : 0xf0 ≤ b.toNat) : lead ≠ b := by
    rintro rfl
    omega
  simp only [continuation?, second, UInt8.lt_iff_toNat_lt]
  rw [if_neg (by simp; omega), if_neg (by simp; omega), if_neg (by simp; omega),
    if_pos (show lead.toNat < (0xf0 : UInt8).toNat from hhigh), if_neg (hfour (b := 0xf0) (by decide)),
    if_neg (hfour (b := 0xf4) (by decide))]
  split
  · rfl
  · split <;> rfl

theorem continuation?_four {lead : UInt8} (hlow : 0xf0 ≤ lead.toNat) (hhigh : lead.toNat ≤ 0xf4) :
    continuation? lead = some [second lead, (0x80, 0xbf), (0x80, 0xbf)] := by
  have hthree {b : UInt8} (hb : b.toNat < 0xf0) : lead ≠ b := by
    rintro rfl
    omega
  simp only [continuation?, second, UInt8.lt_iff_toNat_lt]
  rw [if_neg (by simp; omega), if_neg (by simp; omega), if_neg (by simp; omega),
    if_neg (hthree (b := 0xe0) (by decide)), if_neg (hthree (b := 0xed) (by decide)), if_neg (by simp; omega),
    if_neg (hthree (b := 0xe0) (by decide)), if_neg (hthree (b := 0xed) (by decide))]
  split
  · rfl
  · by_cases h : lead = 0xf4
    · subst h
      rfl
    · have hne : lead.toNat ≠ 0xf4 := fun heq => h (UInt8.toNat_inj.mp heq)
      have hlt : lead.toNat < (0xf4 : UInt8).toNat := show lead.toNat < 0xf4 by omega
      rw [if_pos hlt, if_neg h]

theorem toNat_ofNat_of_lt {n : Nat} (h : n < 256) : (UInt8.ofNat n).toNat = n := by
  rw [UInt8.toNat_ofNat']
  omega

def tail (n : Nat) : UInt8 :=
  .ofNat (n % 64 + 0x80)

theorem toNat_tail (n : Nat) : (tail n).toNat = n % 64 + 0x80 :=
  toNat_ofNat_of_lt (by omega)

theorem tail_mem_interval {low high n : Nat} (hlow : low ≤ n % 64 + 0x80) (hhigh : n % 64 + 0x80 ≤ high)
    (hbyte : high < 256) : UInt8.ofNat low ≤ tail n ∧ tail n ≤ UInt8.ofNat high := by
  rw [UInt8.le_iff_toNat_le, UInt8.le_iff_toNat_le, toNat_tail, toNat_ofNat_of_lt (by omega),
    toNat_ofNat_of_lt hbyte]
  exact ⟨hlow, hhigh⟩

theorem tail_mem (n : Nat) : (0x80 : UInt8) ≤ tail n ∧ tail n ≤ 0xbf :=
  tail_mem_interval (show 0x80 ≤ _ by omega) (show _ ≤ 0xbf by omega) (by decide)

theorem tail_mem_second {lead : UInt8} {n : Nat} (he0 : lead.toNat = 0xe0 → 32 ≤ n % 64)
    (hed : lead.toNat = 0xed → n % 64 < 32) (hf0 : lead.toNat = 0xf0 → 16 ≤ n % 64)
    (hf4 : lead.toNat = 0xf4 → n % 64 < 16) :
    (second lead).1 ≤ tail n ∧ tail n ≤ (second lead).2 := by
  unfold second
  split
  · rename_i h
    have hn := he0 (h ▸ rfl)
    exact tail_mem_interval (show 0xa0 ≤ _ by omega) (show _ ≤ 0xbf by omega) (by decide)
  · split
    · rename_i h
      have hn := hed (h ▸ rfl)
      exact tail_mem_interval (show 0x80 ≤ _ by omega) (show _ ≤ 0x9f by omega) (by decide)
    · split
      · rename_i h
        have hn := hf0 (h ▸ rfl)
        exact tail_mem_interval (show 0x90 ≤ _ by omega) (show _ ≤ 0xbf by omega) (by decide)
      · split
        · rename_i h
          have hn := hf4 (h ▸ rfl)
          exact tail_mem_interval (show 0x80 ≤ _ by omega) (show _ ≤ 0x8f by omega) (by decide)
        · exact tail_mem n

structure Codes (c : Char) (lead : UInt8) (follow : Bytes) : Prop where
  bytes : String.utf8EncodeChar c = lead :: follow
  follows : Follows lead follow
  char : assemble lead follow = c

theorem codes_one {c : Char} (h : c.toNat ≤ 0x7f) : Codes c (.ofNat c.toNat) [] := by
  have hlead : (UInt8.ofNat c.toNat).toNat = c.toNat := toNat_ofNat_of_lt (by omega)
  refine ⟨if_pos h, ⟨[], if_pos ?_, .nil⟩, ?_⟩
  · rw [UInt8.lt_iff_toNat_lt, hlead]
    exact Nat.lt_succ_of_le h
  · simp only [assemble, List.length_nil, List.foldl_nil, hlead, Char.ofNat_toNat]

theorem codes_two {c : Char} (hlow : 0x7f < c.toNat) (hhigh : c.toNat ≤ 0x7ff) :
    Codes c (.ofNat (c.toNat / 64 % 32 + 0xc0)) [tail c.toNat] := by
  have hlead : (UInt8.ofNat (c.toNat / 64 % 32 + 0xc0)).toNat = c.toNat / 64 + 0xc0 := by
    rw [toNat_ofNat_of_lt (by omega)]
    omega
  have hnumber : (c.toNat / 64 + 0xc0) % 0x20 * 0x40 + (c.toNat % 64 + 0x80) % 0x40 = c.toNat := by
    omega
  refine ⟨?_, ⟨_, continuation?_two (by omega) (by omega), .cons (tail_mem _) .nil⟩, ?_⟩
  · exact (if_neg (Nat.not_le.mpr hlow)).trans (if_pos hhigh)
  · simp only [assemble, List.length_cons, List.length_nil, List.foldl_cons, List.foldl_nil, hlead,
      toNat_tail, hnumber, Char.ofNat_toNat]

theorem codes_three {c : Char} (hlow : 0x7ff < c.toNat) (hhigh : c.toNat ≤ 0xffff) :
    Codes c (.ofNat (c.toNat / 4096 % 16 + 0xe0)) [tail (c.toNat / 64), tail c.toNat] := by
  have hlead : (UInt8.ofNat (c.toNat / 4096 % 16 + 0xe0)).toNat = c.toNat / 4096 + 0xe0 := by
    rw [toNat_ofNat_of_lt (by omega)]
    omega
  have hnumber : ((c.toNat / 4096 + 0xe0) % 0x10 * 0x40 + (c.toNat / 64 % 64 + 0x80) % 0x40) * 0x40 +
      (c.toNat % 64 + 0x80) % 0x40 = c.toNat := by
    omega
  -- No number is that of half a pair, so the byte behind `0xed` is in the lower half of its interval.
  have hvalid : c.toNat < 0xd800 ∨ 0xdfff < c.toNat ∧ c.toNat < 0x110000 := c.valid
  refine ⟨?_, ⟨_, continuation?_three (by omega) (by omega), .cons ?_ (.cons (tail_mem _) .nil)⟩, ?_⟩
  · have htwo : ¬ c.toNat ≤ 0x7f := by omega
    exact (if_neg htwo).trans ((if_neg (Nat.not_le.mpr hlow)).trans (if_pos hhigh))
  · apply tail_mem_second <;> omega
  · simp only [assemble, List.length_cons, List.length_nil, List.foldl_cons, List.foldl_nil, hlead,
      toNat_tail, hnumber, Char.ofNat_toNat]

theorem codes_four {c : Char} (h : 0xffff < c.toNat) :
    Codes c (.ofNat (c.toNat / 262144 % 8 + 0xf0))
      [tail (c.toNat / 4096), tail (c.toNat / 64), tail c.toNat] := by
  have hvalid : c.toNat < 0xd800 ∨ 0xdfff < c.toNat ∧ c.toNat < 0x110000 := c.valid
  have hlead : (UInt8.ofNat (c.toNat / 262144 % 8 + 0xf0)).toNat = c.toNat / 262144 + 0xf0 := by
    rw [toNat_ofNat_of_lt (by omega)]
    omega
  have hnumber : (((c.toNat / 262144 + 0xf0) % 0x08 * 0x40 + (c.toNat / 4096 % 64 + 0x80) % 0x40) * 0x40 +
      (c.toNat / 64 % 64 + 0x80) % 0x40) * 0x40 + (c.toNat % 64 + 0x80) % 0x40 = c.toNat := by
    omega
  refine ⟨?_, ⟨_, continuation?_four (by omega) (by omega),
    .cons ?_ (.cons (tail_mem _) (.cons (tail_mem _) .nil))⟩, ?_⟩
  · have htwo : ¬ c.toNat ≤ 0x7f := by omega
    have hthree : ¬ c.toNat ≤ 0x7ff := by omega
    exact (if_neg htwo).trans ((if_neg hthree).trans (if_neg (Nat.not_le.mpr h)))
  · apply tail_mem_second <;> omega
  · simp only [assemble, List.length_cons, List.length_nil, List.foldl_cons, List.foldl_nil, hlead,
      toNat_tail, hnumber, Char.ofNat_toNat]

theorem exists_codes (c : Char) : ∃ lead follow, Codes c lead follow := by
  by_cases hone : c.toNat ≤ 0x7f
  · exact ⟨_, _, codes_one hone⟩
  · by_cases htwo : c.toNat ≤ 0x7ff
    · exact ⟨_, _, codes_two (by omega) htwo⟩
    · by_cases hthree : c.toNat ≤ 0xffff
      · exact ⟨_, _, codes_three (by omega) hthree⟩
      · exact ⟨_, _, codes_four (by omega)⟩

theorem decodeFrom_flatMap (position : Nat) (cs : List Char) :
    decodeFrom position (cs.flatMap String.utf8EncodeChar) = .ok cs := by
  induction cs generalizing position with
  | nil => rw [List.flatMap_nil, decodeFrom]
  | cons c cs ih =>
    obtain ⟨lead, follow, hcode⟩ := exists_codes c
    rw [List.flatMap_cons, hcode.bytes, List.cons_append, decodeFrom_follows position hcode.follows, ih,
      hcode.char]
    rfl

theorem decode_encode (s : String) : decode (encode s) = .ok s.toList :=
  decodeFrom_flatMap 0 s.toList

theorem encode_injective {s t : String} (h : encode s = encode t) : s = t := by
  have hs := decode_encode s
  rw [h, decode_encode t] at hs
  exact (String.toList_inj.mp (Except.ok.inj hs)).symm

end ProgramDeploy.Text.Utf8
