import ProgramDeploy.Proofs.AccountReports
import ProgramDeploy.Proofs.ByteConversion
import ProgramDeploy.Proofs.PayloadLanguage

namespace ProgramDeploy

theorem Hex.markedDigits?_of_spells {cs : List Char} {bs : Bytes} (h : Spells cs bs) :
    markedDigits? cs = none := by
  rw [Option.eq_none_iff_forall_ne_some]
  intro ds hds
  rw [markedDigits?_eq_some_iff.mp hds] at h
  cases h with
  | blank hc => exact absurd hc (by decide)
  | pair high low =>
    -- The second character of the mark is no digit.
    have hdigit := value?_eq_some_iff.mpr low
    cases hdigit

namespace Account

inductive SpellsSeed : Value → Bytes → Prop where
  | raw {seed : Value} {bs : Bytes} (hseed : seed.IsByteString bs) : SpellsSeed seed bs
  | bare {s : String} {bs : Bytes} (hs : Hex.Spells s.toList bs) : SpellsSeed (.text s) bs
  | marked {s : String} {cs : List Char} {bs : Bytes} (hmark : s.toList = "0x".toList ++ cs)
      (hcs : Hex.Spells cs bs) : SpellsSeed (.text s) bs

theorem spellsSeed_text_iff {s : String} {bs : Bytes} :
    SpellsSeed (.text s) bs ↔ Hex.read ((Hex.markedDigits? s.toList).getD s.toList) = .ok bs := by
  constructor
  · intro h
    cases h with
    | raw hseed => cases hseed
    | bare hs =>
      rw [Hex.markedDigits?_of_spells hs]
      exact Hex.read_eq_ok_iff.mpr hs
    | marked hmark hcs =>
      rw [Hex.markedDigits?_eq_some_iff.mpr hmark]
      exact Hex.read_eq_ok_iff.mpr hcs
  · intro h
    cases hmark : Hex.markedDigits? s.toList with
    | none =>
      rw [hmark] at h
      exact .bare (Hex.read_eq_ok_iff.mp h)
    | some cs =>
      rw [hmark] at h
      exact .marked (Hex.markedDigits?_eq_some_iff.mp hmark) (Hex.read_eq_ok_iff.mp h)

section Seeds

variable {seed name : Value}

theorem seedBytes_torn (t : Text.Torn) (name : Value) :
    ∃ f, seedBytes (.torn t) name = .error f ∧ f.kind = .value := by
  have hseed : seedBytes (.torn t) name = name.shown >>= fun s => .error (.seedNotHex s) := rfl
  rw [hseed]
  cases hname : name.shown with
  | error f => exact ⟨f, rfl, name.kind_of_shown hname⟩
  | ok label => exact ⟨_, rfl, rfl⟩

theorem seedBytes_eq_ok_iff {bs : Bytes} :
    seedBytes seed name = .ok bs ↔ SpellsSeed seed bs ∨ seed.Yields bs := by
  by_cases htext : ∃ s, seed = .text s
  · obtain ⟨s, rfl⟩ := htext
    have hyields : ¬ (Value.text s).Yields bs := by
      intro h
      cases Value.toBytes_of_yields h
    rw [spellsSeed_text_iff, or_iff_left hyields]
    unfold seedBytes
    dsimp only
    cases Hex.read ((Hex.markedDigits? s.toList).getD s.toList) with
    | ok cs => simp only [Except.ok.injEq]
    | error e => cases name.shown <;> simp [bind, Except.bind, throw, throwThe, MonadExceptOf.throw]
  · have hraw : SpellsSeed seed bs → seed.Yields bs := by
      intro h
      cases h with
      | raw hseed => exact .itself hseed
      | bare | marked => exact absurd ⟨_, rfl⟩ htext
    rw [or_iff_right_of_imp hraw, ← Value.toBytes_eq_ok_iff]
    cases seed with
    | text s => exact absurd ⟨s, rfl⟩ htext
    | torn t =>
      refine iff_of_false (fun h => ?_) fun h => nomatch h
      obtain ⟨f, hf, -⟩ := seedBytes_torn t name
      rw [hf] at h
      cases h
    | _ => rfl

theorem seedBytes_of_spells {bs : Bytes} (h : SpellsSeed seed bs) : seedBytes seed name = .ok bs :=
  seedBytes_eq_ok_iff.mpr (.inl h)

theorem kind_of_seedBytes {f : Fault} (h : seedBytes seed name = .error f) :
    f.kind = .value ∨ seed.typeName ≠ "str" ∧ seed.Defies f.kind := by
  cases seed with
  | text s =>
    left
    unfold seedBytes at h
    dsimp only at h
    split at h
    · cases h
    · cases hname : name.shown with
      | error g =>
        rw [hname] at h
        cases h
        exact name.kind_of_shown hname
      | ok label =>
        rw [hname] at h
        cases h
        rfl
  | torn t =>
    obtain ⟨g, hg, hkind⟩ := seedBytes_torn t name
    rw [hg] at h
    cases h
    exact .inl hkind
  | _ => exact .inr ⟨by simp [Value.typeName], Value.defies_of_toBytes h⟩

theorem seedBytes_of_defies {k : Kind} (htext : seed.typeName ≠ "str") (h : seed.Defies k) :
    ∃ f, seedBytes seed name = .error f ∧ f.kind = k := by
  cases seed with
  | text | torn => exact absurd rfl htext
  | _ => exact Value.toBytes_of_defies h

variable {format : Value} {k : Nat}

theorem ofSeed_of_length {bs : Bytes} (hformat : IsFormat format k) (hbs : seedBytes seed name = .ok bs)
    (hlength : bs.length = 32) : ofSeed seed name format = .ok (ofSecret (.ofSeed bs) format k) := by
  rw [ofSeed, hbs]
  exact (if_pos hlength).trans (ofPublicKey_of_isFormat hformat _)

theorem ofSeed_of_length_ne {bs : Bytes} (hbs : seedBytes seed name = .ok bs) (hlength : bs.length ≠ 32) :
    ∃ f, ofSeed seed name format = .error f ∧ f.kind = .value := by
  have hseed : ofSeed seed name format = name.shown >>= fun s => .error (.seedLength s bs.length) := by
    rw [ofSeed, hbs]
    exact if_neg hlength
  rw [hseed]
  cases hname : name.shown with
  | error f => exact ⟨f, rfl, name.kind_of_shown hname⟩
  | ok label => exact ⟨_, rfl, rfl⟩

theorem ofSeed_of_error {f : Fault} (hf : seedBytes seed name = .error f) :
    ofSeed seed name format = .error f := by
  rw [ofSeed, hf]
  rfl

end Seeds

end Account

namespace Wallet

open Account

variable (seed name format : Value) (k : Nat) (w : World) (n : Nat)

def EndsInSeedAccount : Prop :=
  (∃ bs label, SpellsSeed seed bs ∧ bs.length = 32 ∧ name.shown = .ok label ∧
    (fromSeed seed name format).run w n = ⟨.ok (ofSecret (.ofSeed bs) format k),
      [accountLine (ofSecret (.ofSeed bs) format k, label)], n⟩) ∨
  (∀ bs label, SpellsSeed seed bs → bs.length = 32 → name.shown ≠ .ok label) ∧
    ∃ f, (fromSeed seed name format).run w n = ⟨.error f, [], n⟩ ∧ f.kind = .value

inductive TakesOther : Prop where
  | taken {bs : Bytes} {label : String} (hseed : ∀ cs, ¬ SpellsSeed seed cs) (hbs : seed.Yields bs)
      (hlength : bs.length = 32) (hname : name.shown = .ok label) : TakesOther
  | unreported {k : Kind} (htext : seed.typeName ≠ "str") (hdefies : seed.Defies k) (hk : k ≠ .value) :
      TakesOther

variable {seed name format k}

theorem run_fromSeed_of_ok {bs : Bytes} {label : String} (hformat : IsFormat format k)
    (hbs : seedBytes seed name = .ok bs) (hlength : bs.length = 32) (hname : name.shown = .ok label) :
    (fromSeed seed name format).run w n = ⟨.ok (ofSecret (.ofSeed bs) format k),
      [accountLine (ofSecret (.ofSeed bs) format k, label)], n⟩ :=
  run_report_of_ok w n (ofSeed_of_length hformat hbs hlength) hname

theorem run_fromSeed_cases (hformat : IsFormat format k) :
    (∃ bs label, seedBytes seed name = .ok bs ∧ bs.length = 32 ∧ name.shown = .ok label) ∨
      ∃ f, (fromSeed seed name format).run w n = ⟨.error f, [], n⟩ ∧
        (f.kind = .value ∨ seed.typeName ≠ "str" ∧ seed.Defies f.kind) := by
  cases hbs : seedBytes seed name with
  | error f => exact .inr ⟨f, run_report_of_error w n (ofSeed_of_error hbs), kind_of_seedBytes hbs⟩
  | ok bs =>
    by_cases hlength : bs.length = 32
    · cases hname : name.shown with
      | ok label => exact .inl ⟨bs, label, rfl, hlength, rfl⟩
      | error f =>
        have hrun := run_report_of_unshown w n (ofSeed_of_length hformat hbs hlength) hname
        exact .inr ⟨f, hrun, .inl (name.kind_of_shown hname)⟩
    · obtain ⟨f, hf, hkind⟩ := ofSeed_of_length_ne hbs hlength
      exact .inr ⟨f, run_report_of_error w n hf, .inl hkind⟩

theorem exists_run_fromSeed_error_iff (hformat : IsFormat format k) {kind : Kind} (hk : kind ≠ .value) :
    (∃ f, (fromSeed seed name format).run w n = ⟨.error f, [], n⟩ ∧ f.kind = kind) ↔
      seed.typeName ≠ "str" ∧ seed.Defies kind := by
  constructor
  · rintro ⟨f, hf, rfl⟩
    obtain ⟨bs, label, hbs, hlength, hname⟩ | ⟨g, hg, hkind⟩ := run_fromSeed_cases w n hformat
    · rw [run_fromSeed_of_ok w n hformat hbs hlength hname] at hf
      cases hf
    · rw [hg] at hf
      cases hf
      exact hkind.resolve_left hk
  · rintro ⟨htext, hdefies⟩
    obtain ⟨f, hf, hkind⟩ := seedBytes_of_defies htext hdefies
    exact ⟨f, run_report_of_error w n (ofSeed_of_error hf), hkind⟩

theorem exists_fromSeed_iff (hformat : IsFormat format k) :
    (∃ a, ((fromSeed seed name format).run w n).result = .ok a) ↔
      ∃ bs label, (SpellsSeed seed bs ∨ seed.Yields bs) ∧ bs.length = 32 ∧ name.shown = .ok label := by
  have hseed (bs : Bytes) : SpellsSeed seed bs ∨ seed.Yields bs ↔ seedBytes seed name = .ok bs :=
    seedBytes_eq_ok_iff.symm
  simp only [hseed]
  constructor
  · rintro ⟨a, ha⟩
    refine (run_fromSeed_cases w n hformat).resolve_right ?_
    rintro ⟨f, hf, -⟩
    rw [hf] at ha
    cases ha
  · rintro ⟨bs, label, hbs, hlength, hname⟩
    exact ⟨_, congrArg Outcome.result (run_fromSeed_of_ok w n hformat hbs hlength hname)⟩

theorem fromSeed_eq_of_spells {bs : Bytes} (h : SpellsSeed seed bs) :
    fromSeed seed name format = fromSeed (.bytes bs) name format := by
  have hraw : seedBytes (.bytes bs) name = .ok bs := rfl
  rw [fromSeed, fromSeed, ofSeed, ofSeed, seedBytes_of_spells h, hraw]

theorem not_endsInSeedAccount_of_takesOther (hformat : IsFormat format k) (h : TakesOther seed name) :
    ¬ EndsInSeedAccount seed name format k w n := by
  cases h with
  | taken hseed hbs hlength hname =>
    have hrun := run_fromSeed_of_ok w n hformat (seedBytes_eq_ok_iff.mpr (.inr hbs)) hlength hname
    rintro (⟨cs, -, hcs, -⟩ | ⟨-, f, hf, -⟩)
    · exact hseed cs hcs
    · rw [hrun] at hf
      cases hf
  | unreported htext hdefies hk =>
    obtain ⟨f, hf, hkind⟩ := (exists_run_fromSeed_error_iff w n hformat hk).mpr ⟨htext, hdefies⟩
    rintro (⟨bs, label, -, -, -, hrun⟩ | ⟨-, g, hg, hvalue⟩)
    · rw [hf] at hrun
      cases hrun
    · rw [hf] at hg
      cases hg
      exact hk (hkind.symm.trans hvalue)

theorem endsInSeedAccount_of_not_takesOther (hformat : IsFormat format k) (h : ¬ TakesOther seed name) :
    EndsInSeedAccount seed name format k w n := by
  obtain ⟨bs, label, hbs, hlength, hname⟩ | ⟨f, hf, hkind⟩ := run_fromSeed_cases w n hformat
  · have hspells : SpellsSeed seed bs := by
      by_contra hother
      have hyields := (seedBytes_eq_ok_iff.mp hbs).resolve_left hother
      refine h (.taken (fun cs hcs => hother ?_) hyields hlength hname)
      -- A seed makes the bytes that it spells, and no others.
      have hsame : seedBytes seed name = .ok cs := seedBytes_of_spells hcs
      rw [hbs] at hsame
      exact Except.ok.inj hsame ▸ hcs
    exact .inl ⟨bs, label, hspells, hlength, hname, run_fromSeed_of_ok w n hformat hbs hlength hname⟩
  · refine .inr ⟨fun bs label hspells hlength hname => ?_, f, hf, ?_⟩
    · rw [run_fromSeed_of_ok w n hformat (seedBytes_of_spells hspells) hlength hname] at hf
      cases hf
    · by_contra hk
      obtain ⟨htext, hdefies⟩ := hkind.resolve_left hk
      exact h (.unreported htext hdefies hk)

/-- A seed of thirty-two bytes makes their account, however it spells them, and all else is refused as a
wrong value, but for values that are neither texts nor byte strings. Of those, what can be turned into
thirty-two bytes makes their account, and what cannot be turned into bytes is refused by the fault of
that. -/
theorem seeds_make_their_accounts_iff (seed name : Value) {format : Value} {k : Nat}
    (hformat : IsFormat format k) (w : World) (n : Nat) :
    (EndsInSeedAccount seed name format k w n ↔ ¬ TakesOther seed name) ∧
    (∀ bs, SpellsSeed seed bs → fromSeed seed name format = fromSeed (.bytes bs) name format) ∧
    ((∃ a, ((fromSeed seed name format).run w n).result = .ok a) ↔
      ∃ bs label, (SpellsSeed seed bs ∨ seed.Yields bs) ∧ bs.length = 32 ∧ name.shown = .ok label) ∧
    ∀ kind, kind ≠ .value →
      ((∃ f, (fromSeed seed name format).run w n = ⟨.error f, [], n⟩ ∧ f.kind = kind) ↔
        seed.typeName ≠ "str" ∧ seed.Defies kind) := by
  refine ⟨⟨fun h hother => not_endsInSeedAccount_of_takesOther w n hformat hother h,
    endsInSeedAccount_of_not_takesOther w n hformat⟩, fun _ => fromSeed_eq_of_spells,
    exists_fromSeed_iff w n hformat, fun _ hk => exists_run_fromSeed_error_iff w n hformat hk⟩

theorem seeds_make_their_accounts_iff_spaced :
    IsFormat (.int 137) 137 ∧
      EndsInSeedAccount (.text "0xAB ab\tabababababababababababababababababababababababababababababab")
        (.text "Anme") (.int 137) 137 ⟨.empty, .empty, [], []⟩ 0 ∧
      fromSeed (.text "0xAB ab\tabababababababababababababababababababababababababababababab")
          (.text "Anme") (.int 137) =
        fromSeed (.bytes (List.replicate 32 0xAB)) (.text "Anme") (.int 137) := by
  have hformat : IsFormat (.int 137) 137 := ⟨rfl, by decide, by decide⟩
  have hspells : SpellsSeed
      (.text "0xAB ab\tabababababababababababababababababababababababababababababab")
      (List.replicate 32 0xAB) :=
    spellsSeed_text_iff.mpr (by decide +kernel)
  obtain ⟨hends, hsame, -⟩ := seeds_make_their_accounts_iff
    (.text "0xAB ab\tabababababababababababababababababababababababababababababab") (.text "Anme") hformat
    ⟨.empty, .empty, [], []⟩ 0
  refine ⟨hformat, hends.mpr ?_, hsame _ hspells⟩
  rintro (⟨hseed, -, -, -⟩ | ⟨htext, -, -⟩)
  · exact hseed _ hspells
  · exact htext rfl

theorem number_does_not_end_in_seed_account :
    ((fromSeed (.int 32) (.text "Anme") (.int 137)).run ⟨.empty, .empty, [], []⟩ 0).result =
      .ok (ofSecret (.ofSeed (List.replicate 32 0)) (.int 137) 137) ∧
    ¬ ∀ seed name format k w n, IsFormat format k → EndsInSeedAccount seed name format k w n := by
  have hformat : IsFormat (.int 137) 137 := ⟨rfl, by decide, by decide⟩
  have hbs : seedBytes (.int 32) (.text "Anme") = .ok (List.replicate 32 0) := rfl
  refine ⟨congrArg Outcome.result (run_fromSeed_of_ok _ _ hformat hbs rfl rfl), fun h => ?_⟩
  have hother : TakesOther (.int 32) (.text "Anme") := by
    refine .taken (fun cs hcs => ?_) (.zeros rfl (by decide : 32 < 0x800000000000)) rfl rfl
    cases hcs with
    | raw hseed => cases hseed
  exact not_endsInSeedAccount_of_takesOther ⟨.empty, .empty, [], []⟩ 0 hformat hother (h _ _ _ _ _ _ hformat)

end Wallet

end ProgramDeploy
