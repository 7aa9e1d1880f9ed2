import Mathlib.Data.List.Induction
import ProgramDeploy.Proofs.AddressRoundTrip

namespace ProgramDeploy

namespace Base58

theorem value?_eq_some {c : Char} {d : Nat} (h : value? c = some d) : d < 58 ∧ digit d = c := by
  have hlength : alphabet.length = 58 := by decide
  unfold value? at h
  dsimp only at h
  split at h
  · rename_i hlt
    cases h
    refine ⟨hlength ▸ hlt, ?_⟩
    rw [digit, List.getD_eq_getElem?_getD, List.getElem?_eq_getElem hlt]
    exact List.getElem_idxOf hlt
  · cases h

theorem digitsOf_add (n : Nat) {d : Nat} (hd : d < 58) (hn : 58 * n + d ≠ 0) :
    digitsOf (58 * n + d) = d :: digitsOf n := by
  have hmod : (58 * n + d) % 58 = d := by omega
  have hdiv : (58 * n + d) / 58 = n := by omega
  rw [digitsOf, if_neg hn, hmod, hdiv]

theorem digits_of_number {cs : List Char} {n : Nat} (h : number cs = .ok n) (hhead : cs.head? ≠ some '1') :
    ((digitsOf n).map digit).reverse = cs ∧ (n = 0 → cs = []) := by
  induction cs using List.reverseRecOn generalizing n with
  | nil =>
    cases h
    simp [digitsOf]
  | append_singleton cs c ih =>
    rw [number, List.foldlM_append] at h
    cases hm : number cs with
    | error e =>
      rw [number] at hm
      rw [hm] at h
      cases h
    | ok m =>
      rw [number] at hm
      rw [hm] at h
      cases hc : value? c with
      | none => simp [bind, Except.bind, hc] at h
      | some d =>
        obtain ⟨hd, hdigit⟩ := value?_eq_some hc
        have hn : n = 58 * m + d := by
          simpa [bind, Except.bind, hc, pure, Except.pure] using h.symm
        have hinit : cs.head? ≠ some '1' := by
          intro hone
          rw [List.head?_append, hone] at hhead
          exact hhead rfl
        obtain ⟨hcs, hzero⟩ := ih hm hinit
        have hne : 58 * m + d ≠ 0 := by
          intro hall
          -- Nothing stands in front of the digit, so it is the leading `1` itself.
          have hnil := hzero (by omega)
          have hone : d = 0 := by omega
          subst hnil hone
          rw [← hdigit] at hhead
          exact hhead rfl
        rw [hn, digitsOf_add m hd hne, List.map_cons, List.reverse_cons, hcs, hdigit]
        exact ⟨rfl, fun h0 => absurd h0 hne⟩

theorem toNatBE_bytesOf (n : Nat) : Bytes.toNatBE (bytesOf n) = n := by
  rw [bytesOf, Bytes.ofNatBE, Bytes.toNatBE_eq, List.reverse_reverse, Bytes.toNatLE_ofNatLE]
  exact Nat.mod_eq_of_lt (Bytes.lt_pow_widthOf n)

theorem head?_bytesOf (n : Nat) : (bytesOf n).head? ≠ some 0 := by
  intro hzero
  have hlength : (bytesOf n).length = Bytes.widthOf n := Bytes.length_ofNatBE _ _
  cases hbytes : bytesOf n with
  | nil =>
    rw [hbytes] at hzero
    cases hzero
  | cons b bs =>
    rw [hbytes, List.head?_cons, Option.some.injEq] at hzero
    rw [hbytes, List.length_cons] at hlength
    subst hzero
    have hn : n = Bytes.toNatLE bs.reverse := by
      rw [← toNatBE_bytesOf n, hbytes, ← Bytes.toNatBE_eq]
      exact Bytes.toNatBE_zeros 1 bs
    have hlt := Bytes.toNatLE_lt bs.reverse
    have hle := Bytes.pow_le_of_widthOf hlength.symm
    rw [List.length_reverse, ← hn] at hlt
    omega

theorem encode_of_decode {cs : List Char} {bs : Bytes} (h : decode cs = .ok bs) : encode bs = cs := by
  let ones := cs.takeWhile (· == '1')
  let rest := cs.dropWhile (· == '1')
  cases hn : number rest with
  | error c =>
    have hfail : decode cs = .error c := by
      rw [decode, show number (cs.dropWhile (· == '1')) = .error c from hn]
      rfl
    rw [hfail] at h
    cases h
  | ok n =>
    have hbs : bs = List.replicate ones.length 0 ++ bytesOf n := by
      rw [decode, show number (cs.dropWhile (· == '1')) = .ok n from hn] at h
      exact (Except.ok.inj h).symm
    have hdigits := (digits_of_number hn (head?_dropWhile_ne '1' cs)).1
    have hzeros := (span_of_head? ones.length (head?_bytesOf n)).1
    have hnumber : Bytes.toNatBE (List.replicate ones.length 0 ++ bytesOf n) = n := by
      rw [Bytes.toNatBE_zeros, toNatBE_bytesOf]
    rw [hbs, encode, hzeros, hnumber, hdigits, List.length_replicate]
    exact replicate_append_dropWhile '1' cs

theorem decode_eq_ok_iff {cs : List Char} {bs : Bytes} : decode cs = .ok bs ↔ cs = encode bs :=
  ⟨fun h => (encode_of_decode h).symm, fun h => h ▸ decode_encode bs⟩

end Base58

namespace Address

def BreaksOff (s : String) : Prop :=
  ∃ bs, Text.trimRight Text.blank s.toList = Base58.encode bs ∧
    (bs = [] ∨ ∃ b : UInt8, b.toNat / 64 % 2 = 1 ∧ bs = [b])

theorem readFormat?_eq_none_iff {bs : Bytes} :
    readFormat? bs = none ↔ bs = [] ∨ ∃ b : UInt8, b.toNat / 64 % 2 = 1 ∧ bs = [b] := by
  cases bs with
  | nil => simp [readFormat?]
  | cons b bs =>
    have hbit : b.toNat / 64 % 2 = 0 ∨ b.toNat / 64 % 2 = 1 := by omega
    rcases hbit with hbit | hbit <;> cases bs <;> simp [readFormat?, hbit]

theorem keyOfBytes_eq_tooShort_iff {bs : Bytes} :
    keyOfBytes bs = .error .tooShort ↔ readFormat? bs = none := by
  unfold keyOfBytes
  constructor
  · intro h
    split at h
    · assumption
    · dsimp only at h
      repeat' split at h
      all_goals cases h
  · intro h
    rw [h]

theorem bytesOfText_eq_ok_iff {s : String} {bs : Bytes} :
    bytesOfText s = .ok bs ↔ Text.trimRight Text.blank s.toList = Base58.encode bs := by
  unfold bytesOfText
  dsimp only
  constructor
  · intro h
    split at h
    · exact Base58.decode_eq_ok_iff.mp (mapError_eq_ok_iff.mp h)
    · cases h
  · intro h
    have hascii : (Base58.encode bs).all (·.toNat < 128) = true :=
      List.all_eq_true.mpr fun c hc => decide_eq_true
        (class_of_mem_alphabet (Base58.mem_alphabet_of_mem_encode hc)).1
    rw [h, if_pos hascii, Base58.decode_eq_ok_iff.mpr rfl]
    rfl

theorem ne_tooShort_of_bytesOfText {s : String} {f : Fault} (h : bytesOfText s = .error f) :
    f ≠ .tooShort := by
  unfold bytesOfText at h
  dsimp only at h
  split at h
  · cases hd : Base58.decode (Text.trimRight Text.blank s.toList) with
    | error c =>
      rw [hd] at h
      cases h
      exact Fault.noConfusion
    | ok bs =>
      rw [hd] at h
      cases h
  · cases h
    exact Fault.noConfusion

theorem decode_eq_tooShort_iff {s : String} : decode s = .error .tooShort ↔ BreaksOff s := by
  unfold decode BreaksOff
  simp only [← bytesOfText_eq_ok_iff, ← readFormat?_eq_none_iff]
  cases h : bytesOfText s with
  | error f => simpa [bind, Except.bind] using ne_tooShort_of_bytesOfText h
  | ok bs => simpa [bind, Except.bind] using keyOfBytes_eq_tooShort_iff

theorem mem_trimRight {p : Text.Class} {c : Char} {cs : List Char} (hmem : c ∈ cs) (hc : p c = false) :
    c ∈ Text.trimRight p cs := by
  rw [Text.trimRight, List.mem_reverse]
  have hsplit : c ∈ cs.reverse.takeWhile p ++ cs.reverse.dropWhile p := by
    rw [List.takeWhile_append_dropWhile, List.mem_reverse]
    exact hmem
  rcases List.mem_append.mp hsplit with hblank | hrest
  · have htrue := List.mem_takeWhile_imp hblank
    rw [hc] at htrue
    cases htrue
  · exact hrest

theorem unmarked_of_breaksOff {s : String} (h : BreaksOff s) : Hex.markedDigits? s.toList = none := by
  obtain ⟨bs, hbs, -⟩ := h
  unfold Hex.markedDigits?
  split
  · rename_i cs hcs
    have hzero : '0' ∈ Text.trimRight Text.blank s.toList :=
      mem_trimRight (by rw [hcs]; exact List.mem_cons_self) (by decide)
    rw [hbs] at hzero
    -- The mark starts with a character that no address has.
    have halphabet := class_of_mem_alphabet (Base58.mem_alphabet_of_mem_encode hzero)
    exact absurd rfl halphabet.2.2
  · rfl

end Address

namespace ActorId

def EndsInFormat (s : String) : Prop :=
  (∃ bs, decode (.text s) = .ok bs ∧ bs.length = 32) ∨
    ∃ f, decode (.text s) = .error f ∧ f.kind = .value

theorem bytesOfText_of_breaksOff {s : String} (h : Address.BreaksOff s) :
    bytesOfText s = .error (.address .tooShort) := by
  rw [bytesOfText, Address.unmarked_of_breaksOff h, Address.decode_eq_tooShort_iff.mpr h]
  rfl

theorem kind_of_bytesOfText {s : String} {f : Fault} (h : bytesOfText s = .error f) :
    f.kind = .value ∨ Address.BreaksOff s := by
  unfold bytesOfText at h
  split at h
  · rename_i digits _
    cases hread : Hex.read digits with
    | ok bs =>
      rw [hread] at h
      cases h
    | error e =>
      rw [hread] at h
      cases h
      exact .inl rfl
  · cases hdecode : Address.decode s with
    | ok bs =>
      rw [hdecode] at h
      cases h
    | error e =>
      rw [hdecode] at h
      by_cases he : e = .tooShort
      · exact .inr (Address.decode_eq_tooShort_iff.mp (he ▸ hdecode))
      · have hf : f = .badAddress s e := by
          simpa [Except.mapError, he] using h.symm
        exact .inl (hf ▸ rfl)

def BreaksOff (s : String) : Prop :=
  s ≠ "" ∧ Address.BreaksOff s

theorem decode_text {s : String} (h : s ≠ "") :
    decode (.text s) = bytesOfText s >>= fun bs =>
      if bs.length = size then .ok bs else .error (.actorIdLength bs.length) := by
  have hempty : s.isEmpty = false := by simpa using h
  simp [decode, source, Value.isTruthy, hempty, bind, Except.bind]
  rfl

theorem decode_of_breaksOff {s : String} (h : BreaksOff s) :
    decode (.text s) = .error (.address .tooShort) := by
  rw [decode_text h.1, bytesOfText_of_breaksOff h.2]
  rfl

theorem endsInFormat_of_not_breaksOff {s : String} (h : ¬ BreaksOff s) : EndsInFormat s := by
  by_cases hempty : s = ""
  · subst hempty
    exact .inr ⟨.emptyActorId, rfl, rfl⟩
  · unfold EndsInFormat
    rw [decode_text hempty]
    cases hbytes : bytesOfText s with
    | error f =>
      have hkind := (kind_of_bytesOfText hbytes).resolve_right fun hbreak => h ⟨hempty, hbreak⟩
      exact .inr ⟨f, rfl, hkind⟩
    | ok bs =>
      by_cases hsize : bs.length = size
      · exact .inl ⟨bs, by simp [bind, Except.bind, hsize], hsize⟩
      · exact .inr ⟨.actorIdLength bs.length, by simp [bind, Except.bind, hsize], rfl⟩

theorem exists_decode_torn (t : Text.Torn) : ∃ f, decode (.torn t) = .error f ∧ f.kind = .value := by
  refine ⟨refused t, rfl, ?_⟩
  unfold refused
  split <;> rfl

/-- Every text gives an id or a fault of a value, but for those that break off: these, and no others,
give a fault of an index. A half cannot stand in either, so a torn text is a wrong value. -/
theorem ends_in_format_iff (s : String) (t : Text.Torn) :
    (EndsInFormat s ↔ ¬ BreaksOff s) ∧
      ((∃ f, decode (.text s) = .error f ∧ f.kind = .index ∧ f.text = .ok "index out of range") ↔
        BreaksOff s) ∧
      ∃ f, decode (.torn t) = .error f ∧ f.kind = .value := by
  have hindex (h : BreaksOff s) :
      ∃ f, decode (.text s) = .error f ∧ f.kind = .index ∧ f.text = .ok "index out of range" :=
    ⟨_, decode_of_breaksOff h, rfl, rfl⟩
  have hexclusive (h : EndsInFormat s) :
      ¬ ∃ f, decode (.text s) = .error f ∧ f.kind = .index ∧ f.text = .ok "index out of range" := by
    rintro ⟨f, hf, hkind, -⟩
    rcases h with ⟨bs, hbs, -⟩ | ⟨g, hg, hvalue⟩
    · rw [hbs] at hf
      cases hf
    · rw [hg] at hf
      cases hf
      rw [hvalue] at hkind
      cases hkind
  refine ⟨⟨fun h hbreak => hexclusive h (hindex hbreak), endsInFormat_of_not_breaksOff⟩, ⟨fun h => ?_, hindex⟩,
    exists_decode_torn t⟩
  by_contra hbreak
  exact hexclusive (endsInFormat_of_not_breaksOff hbreak) h

theorem breaksOff_of_blank {s : String} (hne : s ≠ "") (hblank : ∀ c ∈ s.toList, Text.blank c = true) :
    BreaksOff s := by
  have htrim : Text.trimRight Text.blank s.toList = [] := by
    rw [Text.trimRight, List.reverse_eq_nil_iff, List.dropWhile_eq_nil_iff]
    exact fun c hc => hblank c (List.mem_reverse.mp hc)
  have hencode : Base58.encode [] = [] := by
    simp [Base58.encode, Base58.digitsOf, Bytes.toNatBE]
  exact ⟨hne, [], htrim.trans hencode.symm, .inl rfl⟩

theorem blank_does_not_end_in_format :
    decode (.text " ") = .error (.address .tooShort) ∧ ¬ ∀ s, EndsInFormat s := by
  have hblank : decode (.text " ") = .error (.address .tooShort) :=
    decode_of_breaksOff (breaksOff_of_blank (by decide) (List.all_eq_true.mp (by decide)))
  refine ⟨hblank, fun h => ?_⟩
  obtain ⟨bs, hbs, -⟩ | ⟨f, hf, hkind⟩ := h " "
  · rw [hblank] at hbs
    cases hbs
  · rw [hblank] at hf
    cases hf
    cases hkind

end ActorId

end ProgramDeploy
