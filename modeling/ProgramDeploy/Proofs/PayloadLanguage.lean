import ProgramDeploy.Proofs.HexLanguage
import ProgramDeploy.Proofs.HexRoundTrip
import ProgramDeploy.Proofs.Utf8RoundTrip
import ProgramDeploy.Payload

namespace ProgramDeploy

theorem Hex.markedDigits?_eq_some_iff {cs ds : List Char} :
    markedDigits? cs = some ds ↔ cs = "0x".toList ++ ds := by
  unfold markedDigits?
  split
  · simp
  · rename_i hmark
    simp only [reduceCtorEq, false_iff]
    exact hmark ds

theorem Text.Torn.isSome_markedDigits?_iff (t : Text.Torn) :
    (Hex.markedDigits? t.chars).isSome = true ↔ "0x".toList.map .char <+: t.points := by
  have hchar (c : Char) (hc : c ≠ '\ufffd') (p : Text.Point) : p.toChar = c ↔ .char c = p := by
    cases p with
    | char d => simp [Text.Point.toChar, eq_comm]
    | half place => simpa [Text.Point.toChar] using hc.symm
  have hzero := hchar '0' (by decide)
  have hx := hchar 'x' (by decide)
  have hmark : (Hex.markedDigits? t.chars).isSome = true ↔ ∃ cs, t.chars = "0x".toList ++ cs := by
    simp [Option.isSome_iff_exists, Hex.markedDigits?_eq_some_iff]
  rw [hmark, Text.Torn.chars]
  cases t.points with
  | nil => simp
  | cons p ps =>
    cases ps with
    | nil => simp
    | cons q ps => simp [List.cons_prefix_cons, hzero, hx]

namespace Payload

inductive Means : Value → Bytes → Prop where
  | nothing : Means .null []
  | bytes (bs : Bytes) : Means (.bytes bs) bs
  | buffer (bs : Bytes) : Means (.buffer bs) bs
  | plain {s : String} (hplain : ¬ "0x".toList <+: s.toList) : Means (.text s) (Text.Utf8.encode s)
  | marked {s : String} {cs : List Char} {bs : Bytes} (hmark : s.toList = "0x".toList ++ cs)
      (hcs : Hex.Spells cs bs) : Means (.text s) bs

inductive Refuses : Value → Fault → Prop where
  | unwritten {t : Text.Torn} {f : Fault} (hplain : ¬ "0x".toList.map .char <+: t.points)
      (hkind : f.kind = .encoding) (hcause : f.cause? = none)
      (htext : f.text = .ok ((Text.Unwritten.halves t.points).message "utf-8" "surrogates not allowed")) :
      Refuses (.torn t) f
  | torn {t : Text.Torn} {f : Fault} (hmark : "0x".toList.map .char <+: t.points)
      (hkind : f.kind = .value) (hcause : f.cause? = some .value)
      (htext : f.text = .ok ("Invalid hex payload: " ++ t.shown)) : Refuses (.torn t) f
  | malformed {s : String} {cs : List Char} {f : Fault} (hmark : s.toList = "0x".toList ++ cs)
      (hcs : ∀ bs, ¬ Hex.Spells cs bs) (hkind : f.kind = .value) (hcause : f.cause? = some .value)
      (htext : f.text = .ok ("Invalid hex payload: " ++ s)) : Refuses (.text s) f
  | unsupported {v : Value} {f : Fault} (htype : v.typeName ∉ ["NoneType", "bytes", "bytearray", "str"])
      (hkind : f.kind = .value) (hcause : f.cause? = none)
      (htext : f.text = .ok ("Unsupported payload type: " ++ v.typeName)) : Refuses v f

theorem encode_plain {s : String} (h : ¬ "0x".toList <+: s.toList) :
    encode (.text s) = .ok (Text.Utf8.encode s) := by
  have hmark : Hex.markedDigits? s.toList = none := by
    rw [Option.eq_none_iff_forall_ne_some]
    intro cs hcs
    exact h ⟨cs, (Hex.markedDigits?_eq_some_iff.mp hcs).symm⟩
  simp only [encode, hmark]

theorem encode_marked {s : String} {cs : List Char} (h : s.toList = "0x".toList ++ cs) :
    encode (.text s) = (Hex.read cs).mapError fun _ => .payloadNotHex s := by
  simp only [encode, Hex.markedDigits?_eq_some_iff.mpr h]

theorem encode_of_means {v : Value} {bs : Bytes} (h : Means v bs) : encode v = .ok bs := by
  cases h with
  | nothing | bytes | buffer => rfl
  | plain hplain => exact encode_plain hplain
  | marked hmark hcs =>
    rw [encode_marked hmark, Hex.read_eq_ok_iff.mpr hcs]
    rfl

theorem refuses_torn (t : Text.Torn) : Refuses (.torn t) (refused t) := by
  have hmark := t.isSome_markedDigits?_iff
  unfold refused
  split
  · rename_i h
    exact .torn (hmark.mp h) rfl rfl rfl
  · rename_i h
    exact .unwritten (mt hmark.mpr h) rfl rfl rfl

theorem means_or_refuses (v : Value) :
    (∃ bs, encode v = .ok bs ∧ Means v bs) ∨ ∃ f, encode v = .error f ∧ Refuses v f := by
  cases v with
  | null => exact .inl ⟨_, rfl, .nothing⟩
  | bytes bs => exact .inl ⟨bs, rfl, .bytes bs⟩
  | buffer bs => exact .inl ⟨bs, rfl, .buffer bs⟩
  | text s =>
    by_cases hplain : "0x".toList <+: s.toList
    · obtain ⟨cs, hmark⟩ := hplain
      cases hread : Hex.read cs with
      | ok bs =>
        have hmeans : Means (.text s) bs := .marked hmark.symm (Hex.read_eq_ok_iff.mp hread)
        exact .inl ⟨bs, encode_of_means hmeans, hmeans⟩
      | error e =>
        have hencode : encode (.text s) = .error (.payloadNotHex s) := by
          rw [encode_marked hmark.symm, hread]
          rfl
        have hcs := Hex.exists_read_error_iff.mp ⟨e, hread⟩
        exact .inr ⟨_, hencode, .malformed hmark.symm hcs rfl rfl rfl⟩
    · exact .inl ⟨_, encode_plain hplain, .plain hplain⟩
  | torn t => exact .inr ⟨_, rfl, refuses_torn t⟩
  | bool | int | float | list | dict =>
    exact .inr ⟨_, rfl, .unsupported (by simp [Value.typeName]) rfl rfl rfl⟩

theorem encode_eq_ok_iff {v : Value} {bs : Bytes} : encode v = .ok bs ↔ Means v bs := by
  refine ⟨fun h => ?_, encode_of_means⟩
  obtain ⟨cs, hcs, hmeans⟩ | ⟨f, hf, -⟩ := means_or_refuses v
  · rw [h] at hcs
    cases hcs
    exact hmeans
  · rw [h] at hf
    cases hf

theorem refuses_of_encode {v : Value} {f : Fault} (h : encode v = .error f) : Refuses v f := by
  obtain ⟨cs, hcs, -⟩ | ⟨g, hg, hrefuses⟩ := means_or_refuses v
  · rw [h] at hcs
    cases hcs
  · rw [h] at hg
    cases hg
    exact hrefuses

theorem Refuses.isValue {v : Value} {f : Fault} (h : Refuses v f) : f.kind.isValue = true := by
  cases h with
  | unwritten _ hkind | torn _ hkind | malformed _ _ hkind | unsupported _ hkind => rw [hkind]; rfl

def half : Text.Torn :=
  ⟨[.half 0], rfl⟩

def IsUnwritten (v : Value) : Prop :=
  ∃ t : Text.Torn, v = .torn t ∧ ¬ "0x".toList.map .char <+: t.points

theorem kind_of_refuses {v : Value} {f : Fault} (h : Refuses v f) :
    f.kind = .value ∨ f.kind = .encoding ∧ IsUnwritten v := by
  cases h with
  | unwritten hplain hkind => exact .inr ⟨hkind, _, rfl, hplain⟩
  | torn _ hkind | malformed _ _ hkind | unsupported _ hkind => exact .inl hkind

theorem exists_encode_of_isUnwritten {v : Value} (h : IsUnwritten v) :
    ∃ f, encode v = .error f ∧ f.kind = .encoding := by
  obtain ⟨t, rfl, hplain⟩ := h
  refine ⟨_, rfl, ?_⟩
  cases refuses_torn t with
  | unwritten _ hkind => exact hkind
  | torn hmark => exact absurd hmark hplain
  | unsupported htype => exact absurd (by simp [Value.typeName]) htype

theorem half_is_not_written :
    Json.read 0 "\"\\ud800\"".toList = .ok (.torn half) ∧ ¬ "0x".toList.map .char <+: half.points ∧
      (Value.torn half).typeName = "str" ∧ ¬ ∃ bs, encode (.torn half) = .ok bs := by
  refine ⟨by cbv, by decide, rfl, ?_⟩
  rintro ⟨bs, h⟩
  cases h

theorem encode_hex (bs : Bytes) : encode (.text (Hex.marked bs)) = .ok bs := by
  rw [encode_marked (Hex.markedDigits?_eq_some_iff.mp (Hex.markedDigits?_marked bs)), Hex.read_digits]
  rfl

theorem encode_is_exact :
    (∀ v bs, encode v = .ok bs ↔ Means v bs) ∧
      (∀ v f, encode v = .error f → Refuses v f ∧ f.kind.isValue = true) ∧
      (∀ s bs, ¬ "0x".toList <+: s.toList → encode (.text s) = .ok bs →
        Text.Utf8.decode bs = .ok s.toList) ∧
      (∀ s t, ¬ "0x".toList <+: s.toList → ¬ "0x".toList <+: t.toList →
        encode (.text s) = encode (.text t) → s = t) ∧
      (∀ bs, encode (.text (Hex.marked bs)) = .ok bs) ∧
      ∀ v bs, encode v = .ok bs → encode (.text (Hex.marked bs)) = encode v := by
  refine ⟨fun _ _ => encode_eq_ok_iff, fun _ _ h => ⟨refuses_of_encode h, (refuses_of_encode h).isValue⟩, ?_, ?_,
    encode_hex, ?_⟩
  · intro s bs hplain h
    rw [encode_plain hplain] at h
    cases h
    exact Text.Utf8.decode_encode s
  · intro s t hs ht h
    rw [encode_plain hs, encode_plain ht] at h
    exact Text.Utf8.encode_injective (Except.ok.inj h)
  · intro v bs h
    rw [h, encode_hex]

theorem encode_is_exact_spaced :
    encode (.text "0x 0aFf\n") = .ok [0x0a, 0xff] ∧ Refuses (.text "0x0 a") (.payloadNotHex "0x0 a") ∧
      Refuses (.torn half) (.unwritable ⟨0xd800, 0, 1⟩) := by
  have hspells : Hex.Spells " 0aFf\n".toList [0x0a, 0xff] :=
    .blank (by decide) (.pair (.inl rfl) (.inl rfl)
      (.pair (.inr rfl) (.inl rfl) (.blank (by decide) .nil)))
  exact ⟨(encode_is_exact.1 _ _).mpr (.marked rfl hspells), (encode_is_exact.2.1 _ _ rfl).1,
    (encode_is_exact.2.1 _ _ rfl).1⟩

end Payload

end ProgramDeploy
