import ProgramDeploy.Proofs.Runs

namespace ProgramDeploy.Value

inductive IsByteString : Value → Bytes → Prop where
  | bytes (bs : Bytes) : IsByteString (.bytes bs) bs
  | buffer (bs : Bytes) : IsByteString (.buffer bs) bs

def row? : Value → Option (List Value)
  | list vs => some vs
  | dict t => some (t.map fun entry => entry.1.toValue)
  | _ => none

inductive Yields : Value → Bytes → Prop where
  | itself {v : Value} {bs : Bytes} (hv : v.IsByteString bs) : Yields v bs
  | zeros {v : Value} {n : Nat} (hv : v.toInt? = some ↑n) (hn : n < 0x800000000000) :
      Yields v (List.replicate n 0)
  | row {v : Value} {vs : List Value} {bs : Bytes} (hv : v.row? = some vs)
      (hvs : vs.map toInt? = bs.map fun b => some ↑b.toNat) : Yields v bs

inductive Spoils : List Value → Kind → Prop where
  | noNumber {v : Value} {vs : List Value} (hv : v.toInt? = none) : Spoils (v :: vs) .type
  | outOfRange {v : Value} {vs : List Value} {n : Int} (hv : v.toInt? = some n) (hn : n < 0 ∨ 256 ≤ n) :
      Spoils (v :: vs) .value
  | behind {v : Value} {vs : List Value} {b : UInt8} {k : Kind} (hv : v.toInt? = some ↑b.toNat)
      (hvs : Spoils vs k) : Spoils (v :: vs) k

inductive Defies : Value → Kind → Prop where
  | unfit {v : Value} (hv : v.typeName ∈ ["NoneType", "float", "str"]) : Defies v .type
  | negative {v : Value} {n : Int} (hv : v.toInt? = some n) (hn : n < 0)
      (hword : -0x8000000000000000 ≤ n) : Defies v .value
  | beyondWord {v : Value} {n : Int} (hv : v.toInt? = some n)
      (hn : n < -0x8000000000000000 ∨ 0x8000000000000000 ≤ n + 33) : Defies v .overflow
  | unallocatable {v : Value} {n : Int} (hv : v.toInt? = some n) (hn : 0x800000000000 ≤ n)
      (hword : n + 33 < 0x8000000000000000) : Defies v .memory
  | row {v : Value} {vs : List Value} {k : Kind} (hv : v.row? = some vs) (hvs : Spoils vs k) : Defies v k

theorem Spoils.ne_encoding {vs : List Value} {k : Kind} (h : Spoils vs k) : k ≠ .encoding := by
  induction h with
  | noNumber | outOfRange => decide
  | behind _ _ ih => exact ih

theorem Defies.ne_encoding {v : Value} {k : Kind} (h : v.Defies k) : k ≠ .encoding := by
  cases h with
  | row _ hvs => exact hvs.ne_encoding
  | _ => decide

theorem fitsWord_iff {n : Int} :
    fitsWord n = true ↔ -0x8000000000000000 ≤ n ∧ n < 0x8000000000000000 := by
  simp [fitsWord]

theorem toByte_eq_ok_iff {v : Value} {b : UInt8} : v.toByte = .ok b ↔ v.toInt? = some ↑b.toNat := by
  have hb : b.toNat < 256 := b.toNat_lt
  unfold toByte
  cases v.toInt? with
  | none => simp
  | some n =>
    by_cases hn : 0 ≤ n ∧ n < 256
    · simp only [hn, and_self, if_true, Except.ok.injEq, Option.some.injEq]
      constructor
      · rintro rfl
        rw [UInt8.toNat_ofNat']
        omega
      · rintro rfl
        rw [Int.toNat_natCast, UInt8.ofNat_toNat]
    · simp only [hn, if_false, reduceCtorEq, Option.some.injEq, false_iff]
      omega

theorem mapM_toByte_eq_ok_iff {vs : List Value} {bs : Bytes} :
    vs.mapM toByte = .ok bs ↔ vs.map toInt? = bs.map fun b => some ↑b.toNat := by
  induction vs generalizing bs with
  | nil => cases bs <;> simp [pure_eq_ok_iff]
  | cons v vs ih =>
    simp only [List.mapM_cons, bind_eq_ok_iff, pure_eq_ok_iff, toByte_eq_ok_iff, ih]
    constructor
    · rintro ⟨b, hb, rest, hrest, rfl⟩
      rw [List.map_cons, List.map_cons, hb, hrest]
    · intro h
      cases bs with
      | nil => cases h
      | cons b rest =>
        obtain ⟨hb, hrest⟩ := List.cons.inj h
        exact ⟨b, hb, rest, hrest, rfl⟩

theorem spoils_of_mapM_toByte {vs : List Value} {f : Fault} (h : vs.mapM toByte = .error f) :
    Spoils vs f.kind := by
  induction vs with
  | nil => cases h
  | cons v vs ih =>
    rw [List.mapM_cons] at h
    cases hv : v.toByte with
    | ok b =>
      refine .behind (toByte_eq_ok_iff.mp hv) (ih ?_)
      rw [hv] at h
      cases hvs : vs.mapM toByte with
      | ok bs =>
        rw [hvs] at h
        cases h
      | error g =>
        rw [hvs] at h
        exact h
    | error g =>
      rw [hv] at h
      cases h
      unfold toByte at hv
      cases hn : v.toInt? with
      | none =>
        rw [hn] at hv
        cases hv
        exact .noNumber hn
      | some n =>
        simp only [hn] at hv
        split at hv
        · cases hv
        · cases hv
          exact .outOfRange hn (by omega)

theorem mapM_toByte_of_spoils {vs : List Value} {k : Kind} (h : Spoils vs k) :
    ∃ f, vs.mapM toByte = .error f ∧ f.kind = k := by
  induction h with
  | @noNumber v vs hv =>
    have hbyte : v.toByte = .error (v.misused .notInteger) := by simp only [toByte, hv]
    exact ⟨v.misused .notInteger, by rw [List.mapM_cons, hbyte]; rfl, rfl⟩
  | @outOfRange v vs n hv hn =>
    have hrange : ¬ (0 ≤ n ∧ n < 256) := by omega
    have hbyte : v.toByte = .error .byteOutOfRange := by simp only [toByte, hv, if_neg hrange]
    exact ⟨.byteOutOfRange, by rw [List.mapM_cons, hbyte]; rfl, rfl⟩
  | behind hv hvs ih =>
    obtain ⟨f, hf, hkind⟩ := ih
    exact ⟨f, by rw [List.mapM_cons, toByte_eq_ok_iff.mpr hv, hf]; rfl, hkind⟩

theorem toBytes_of_toInt? {v : Value} {n : Int} (h : v.toInt? = some n) : v.toBytes = zeroBytes n := by
  cases v with
  | bool | int =>
    cases h
    rfl
  | _ => cases h

theorem toBytes_of_row? {v : Value} {vs : List Value} (h : v.row? = some vs) :
    v.toBytes = vs.mapM toByte := by
  cases v with
  | list | dict =>
    cases h
    rfl
  | _ => cases h

theorem zeroBytes_of_lt {n : Nat} (h : n < 0x800000000000) :
    zeroBytes n = .ok (List.replicate n 0) := by
  have hword : fitsWord n = true := fitsWord_iff.mpr (by omega)
  have hframed : fitsWord (n + 33) = true := fitsWord_iff.mpr (by omega)
  have hnonneg : ¬ (n : Int) < 0 := by omega
  have hsmall : ¬ (0x800000000000 : Int) ≤ n := by omega
  simp [zeroBytes, hword, hframed, hnonneg, hsmall]

theorem zeroBytes_of_neg {n : Int} (hn : n < 0) (hword : -0x8000000000000000 ≤ n) :
    zeroBytes n = .error .negativeCount := by
  have hfits : fitsWord n = true := fitsWord_iff.mpr (by omega)
  simp [zeroBytes, hfits, hn]

theorem zeroBytes_beyondWord {n : Int} (hn : n < -0x8000000000000000 ∨ 0x8000000000000000 ≤ n + 33) :
    ∃ f, zeroBytes n = .error f ∧ f.kind = .overflow := by
  unfold zeroBytes
  by_cases hfits : fitsWord n = true
  · have hbounds := fitsWord_iff.mp hfits
    have hnonneg : ¬ n < 0 := by omega
    have hframed : fitsWord (n + 33) = false := by
      rw [Bool.eq_false_iff, ne_eq, fitsWord_iff]
      omega
    exact ⟨.countTooLarge, by simp [hfits, hnonneg, hframed], rfl⟩
  · exact ⟨.beyondWord .overflow, by simp [hfits], rfl⟩

theorem zeroBytes_unallocatable {n : Int} (hn : 0x800000000000 ≤ n) (hword : n + 33 < 0x8000000000000000) :
    zeroBytes n = .error .countUnallocatable := by
  have hfits : fitsWord n = true := fitsWord_iff.mpr (by omega)
  have hframed : fitsWord (n + 33) = true := fitsWord_iff.mpr (by omega)
  have hnonneg : ¬ n < 0 := by omega
  simp [zeroBytes, hfits, hframed, hnonneg, hn]

theorem yields_or_defies_of_toInt? {v : Value} {n : Int} (hv : v.toInt? = some n) :
    (∃ bs, v.toBytes = .ok bs ∧ v.Yields bs) ∨ ∃ f, v.toBytes = .error f ∧ v.Defies f.kind := by
  rw [toBytes_of_toInt? hv]
  by_cases hbeyond : n < -0x8000000000000000 ∨ 0x8000000000000000 ≤ n + 33
  · obtain ⟨f, hf, hkind⟩ := zeroBytes_beyondWord hbeyond
    exact .inr ⟨f, hf, hkind ▸ .beyondWord hv hbeyond⟩
  · by_cases hneg : n < 0
    · have hword : -0x8000000000000000 ≤ n := by omega
      exact .inr ⟨_, zeroBytes_of_neg hneg hword, .negative hv hneg hword⟩
    · by_cases hlarge : 0x800000000000 ≤ n
      · have hword : n + 33 < 0x8000000000000000 := by omega
        exact .inr ⟨_, zeroBytes_unallocatable hlarge hword, .unallocatable hv hlarge hword⟩
      · obtain ⟨m, rfl⟩ := Int.eq_ofNat_of_zero_le (Int.not_lt.mp hneg)
        have hsmall : m < 0x800000000000 := by omega
        exact .inl ⟨_, zeroBytes_of_lt hsmall, .zeros hv hsmall⟩

theorem yields_or_defies_of_row? {v : Value} {vs : List Value} (hv : v.row? = some vs) :
    (∃ bs, v.toBytes = .ok bs ∧ v.Yields bs) ∨ ∃ f, v.toBytes = .error f ∧ v.Defies f.kind := by
  rw [toBytes_of_row? hv]
  cases h : vs.mapM toByte with
  | ok bs => exact .inl ⟨bs, rfl, .row hv (mapM_toByte_eq_ok_iff.mp h)⟩
  | error f => exact .inr ⟨f, rfl, .row hv (spoils_of_mapM_toByte h)⟩

theorem yields_or_defies (v : Value) :
    (∃ bs, v.toBytes = .ok bs ∧ v.Yields bs) ∨ ∃ f, v.toBytes = .error f ∧ v.Defies f.kind := by
  cases v with
  | bytes bs => exact .inl ⟨bs, rfl, .itself (.bytes bs)⟩
  | buffer bs => exact .inl ⟨bs, rfl, .itself (.buffer bs)⟩
  | bool | int => exact yields_or_defies_of_toInt? rfl
  | list | dict => exact yields_or_defies_of_row? rfl
  | null | float | text | torn => exact .inr ⟨_, rfl, .unfit (by simp [typeName])⟩

theorem toBytes_of_yields {v : Value} {bs : Bytes} (h : v.Yields bs) : v.toBytes = .ok bs := by
  cases h with
  | itself hv => cases hv <;> rfl
  | zeros hv hn => rw [toBytes_of_toInt? hv, zeroBytes_of_lt hn]
  | row hv hvs => rw [toBytes_of_row? hv, mapM_toByte_eq_ok_iff.mpr hvs]

theorem toBytes_of_defies {v : Value} {k : Kind} (h : v.Defies k) :
    ∃ f, v.toBytes = .error f ∧ f.kind = k := by
  cases h with
  | unfit hv =>
    cases v with
    | null | float | text | torn => exact ⟨_, rfl, rfl⟩
    | _ => simp [typeName] at hv
  | negative hv hn hword =>
    rw [toBytes_of_toInt? hv]
    exact ⟨_, zeroBytes_of_neg hn hword, rfl⟩
  | beyondWord hv hn =>
    rw [toBytes_of_toInt? hv]
    exact zeroBytes_beyondWord hn
  | unallocatable hv hn hword =>
    rw [toBytes_of_toInt? hv]
    exact ⟨_, zeroBytes_unallocatable hn hword, rfl⟩
  | row hv hvs =>
    rw [toBytes_of_row? hv]
    exact mapM_toByte_of_spoils hvs

theorem toBytes_eq_ok_iff {v : Value} {bs : Bytes} : v.toBytes = .ok bs ↔ v.Yields bs := by
  refine ⟨fun h => ?_, toBytes_of_yields⟩
  obtain ⟨cs, hcs, hyields⟩ | ⟨f, hf, -⟩ := yields_or_defies v
  · rw [h] at hcs
    cases hcs
    exact hyields
  · rw [h] at hf
    cases hf

theorem defies_of_toBytes {v : Value} {f : Fault} (h : v.toBytes = .error f) : v.Defies f.kind := by
  obtain ⟨bs, hbs, -⟩ | ⟨g, hg, hdefies⟩ := yields_or_defies v
  · rw [h] at hbs
    cases hbs
  · rw [h] at hg
    cases hg
    exact hdefies

end ProgramDeploy.Value
