import ProgramDeploy.Proofs.ByteConversion
import ProgramDeploy.Proofs.DeploymentStages
import ProgramDeploy.Proofs.PayloadLanguage

namespace ProgramDeploy

def Value.IsAmount (v : Value) : Prop :=
  ∃ n : Nat, v.toInt? = some ↑n

theorem Value.isTruthy_of_isByteString {v : Value} {bs : Bytes} (h : v.IsByteString bs) :
    v.isTruthy = true ↔ bs ≠ [] := by
  cases h <;> simp [isTruthy]

namespace Program

theorem isAmount_iff {v : Value} : isAmount v = true ↔ v.IsAmount := by
  unfold isAmount Value.IsAmount
  cases v.toInt? with
  | none => simp
  | some n =>
    simp only [decide_eq_true_eq, Option.some.injEq]
    exact ⟨fun h => ⟨n.toNat, (Int.toNat_of_nonneg h).symm⟩, fun ⟨m, hm⟩ => hm ▸ Int.natCast_nonneg m⟩

variable (code initPayload gasLimit value salt : Value) (e : Entropy)

structure HasParts (p : Program) : Prop where
  gasLimit : gasLimit.IsAmount ∧ p.gasLimit = gasLimit
  value : value.IsAmount ∧ p.value = value
  initPayload : Payload.encode initPayload = .ok p.initPayload
  drawn : salt = .null → p.salt = .bytes (e.draw 20)
  given : salt ≠ .null → p.salt = salt

structure Describes (p : Program) : Prop where
  code : code.IsByteString p.code
  nonempty : p.code ≠ []
  parts : HasParts initPayload gasLimit value salt e p

def EndsInDescriptor : Prop :=
  (∃ p, Describes code initPayload gasLimit value salt e p ∧
    build code initPayload gasLimit value salt e = .ok p) ∨
  (¬ ∃ p, Describes code initPayload gasLimit value salt e p) ∧
    ∃ f, build code initPayload gasLimit value salt e = .error f ∧
      (f.kind = .value ∨ f.kind = .encoding ∧ Payload.IsUnwritten initPayload)

inductive Strays : Prop where
  | taken {bs payload : Bytes} (hcode : ∀ cs, ¬ code.IsByteString cs) (htruthy : code.isTruthy = true)
      (hgas : gasLimit.IsAmount) (hvalue : value.IsAmount) (hbs : code.Yields bs)
      (hpayload : Payload.encode initPayload = .ok payload) : Strays
  | unreported {k : Kind} (htruthy : code.isTruthy = true) (hgas : gasLimit.IsAmount)
      (hvalue : value.IsAmount) (hdefies : code.Defies k) (hk : k ≠ .value) : Strays

variable {code initPayload gasLimit value salt e}

theorem hasParts_iff {p : Program} :
    HasParts initPayload gasLimit value salt e p ↔
      isAmount gasLimit = true ∧ isAmount value = true ∧ ∃ payload,
        Payload.encode initPayload = .ok payload ∧
          p = ⟨p.code, gasLimit, value, payload, saltOf e salt⟩ := by
  have hsalt : p.salt = saltOf e salt ↔
      (salt = .null → p.salt = .bytes (e.draw 20)) ∧ (salt ≠ .null → p.salt = salt) := by
    cases salt <;> simp [saltOf, drawSalt, saltSize]
  constructor
  · rintro ⟨⟨hgas, hgas'⟩, ⟨hvalue, hvalue'⟩, hpayload, hdrawn, hgiven⟩
    refine ⟨isAmount_iff.mpr hgas, isAmount_iff.mpr hvalue, _, hpayload, ?_⟩
    rw [← hgas', ← hvalue', ← hsalt.mpr ⟨hdrawn, hgiven⟩]
  · rintro ⟨hgas, hvalue, payload, hpayload, hp⟩
    obtain ⟨hdrawn, hgiven⟩ := hsalt.mp (congrArg Program.salt hp)
    have hencoded : p.initPayload = payload := congrArg Program.initPayload hp
    exact ⟨⟨isAmount_iff.mp hgas, congrArg Program.gasLimit hp⟩,
      ⟨isAmount_iff.mp hvalue, congrArg Program.value hp⟩, hencoded ▸ hpayload, hdrawn, hgiven⟩

theorem build_eq_ok_iff_hasParts {p : Program} :
    build code initPayload gasLimit value salt e = .ok p ↔
      code.isTruthy = true ∧ code.Yields p.code ∧ HasParts initPayload gasLimit value salt e p := by
  rw [build_eq_ok_iff, hasParts_iff]
  constructor
  · rintro ⟨htruthy, hgas, hvalue, bs, payload, hbs, hpayload, rfl⟩
    exact ⟨htruthy, Value.toBytes_eq_ok_iff.mp hbs, hgas, hvalue, payload, hpayload, rfl⟩
  · rintro ⟨htruthy, hbs, hgas, hvalue, payload, hpayload, hp⟩
    exact ⟨htruthy, hgas, hvalue, _, payload, Value.toBytes_of_yields hbs, hpayload, hp⟩

theorem build_of_describes {p : Program} (h : Describes code initPayload gasLimit value salt e p) :
    build code initPayload gasLimit value salt e = .ok p :=
  build_eq_ok_iff_hasParts.mpr
    ⟨(Value.isTruthy_of_isByteString h.code).mpr h.nonempty, .itself h.code, h.parts⟩

theorem exists_build_error_iff {k : Kind} (hk : k ≠ .value) :
    (∃ f, build code initPayload gasLimit value salt e = .error f ∧ f.kind = k) ↔
      code.isTruthy = true ∧ gasLimit.IsAmount ∧ value.IsAmount ∧ (code.Defies k ∨
        k = .encoding ∧ (∃ bs, code.Yields bs) ∧ Payload.IsUnwritten initPayload) := by
  simp only [← isAmount_iff]
  constructor
  · rintro ⟨f, hf, rfl⟩
    by_cases hparts : code.isTruthy = true ∧ isAmount gasLimit = true ∧ isAmount value = true
    · obtain ⟨htruthy, hgas, hvalue⟩ := hparts
      refine ⟨htruthy, hgas, hvalue, ?_⟩
      rw [build_of_amounts htruthy hgas hvalue] at hf
      cases hbs : code.toBytes with
      | error g =>
        rw [hbs] at hf
        cases hf
        exact .inl (Value.defies_of_toBytes hbs)
      | ok bs =>
        cases hpayload : Payload.encode initPayload with
        | error g =>
          rw [hbs, hpayload] at hf
          cases hf
          obtain hvalue | ⟨hencoding, hunwritten⟩ := Payload.kind_of_refuses (Payload.refuses_of_encode hpayload)
          · exact absurd hvalue hk
          · exact .inr ⟨hencoding, ⟨bs, Value.toBytes_eq_ok_iff.mp hbs⟩, hunwritten⟩
        | ok payload =>
          rw [hbs, hpayload] at hf
          cases hf
    · obtain ⟨g, hg, hkind⟩ := build_of_refused hparts
      rw [hf] at hg
      cases hg
      exact absurd hkind hk
  · rintro ⟨htruthy, hgas, hvalue, hdefies | ⟨rfl, ⟨bs, hbs⟩, hunwritten⟩⟩
    · obtain ⟨f, hf, hkind⟩ := Value.toBytes_of_defies hdefies
      rw [build_of_amounts htruthy hgas hvalue, hf]
      exact ⟨f, rfl, hkind⟩
    · obtain ⟨f, hf, hkind⟩ := Payload.exists_encode_of_isUnwritten hunwritten
      rw [build_of_amounts htruthy hgas hvalue, Value.toBytes_of_yields hbs, hf]
      exact ⟨f, rfl, hkind⟩

theorem not_endsInDescriptor_of_strays (h : Strays code initPayload gasLimit value) :
    ¬ EndsInDescriptor code initPayload gasLimit value salt e := by
  cases h with
  | @taken bs payload hcode htruthy hgas hvalue hbs hpayload =>
    have hparts : HasParts initPayload gasLimit value salt e
        ⟨bs, gasLimit, value, payload, saltOf e salt⟩ :=
      hasParts_iff.mpr ⟨isAmount_iff.mpr hgas, isAmount_iff.mpr hvalue, payload, hpayload, rfl⟩
    have hbuild := build_eq_ok_iff_hasParts.mpr ⟨htruthy, hbs, hparts⟩
    rintro (⟨p, hp, -⟩ | ⟨-, f, hf, -⟩)
    · exact hcode _ hp.code
    · rw [hbuild] at hf
      cases hf
  | unreported htruthy hgas hvalue hdefies hk =>
    obtain ⟨f, hf, rfl⟩ := (exists_build_error_iff hk).mpr ⟨htruthy, hgas, hvalue, .inl hdefies⟩
    rintro (⟨p, -, hp⟩ | ⟨-, g, hg, hvalueKind | ⟨hencoding, -⟩⟩)
    · rw [hf] at hp
      cases hp
    · rw [hf] at hg
      cases hg
      exact hk hvalueKind
    · rw [hf] at hg
      cases hg
      exact hdefies.ne_encoding hencoding

theorem endsInDescriptor_of_not_strays (h : ¬ Strays code initPayload gasLimit value) :
    EndsInDescriptor code initPayload gasLimit value salt e := by
  cases hbuild : build code initPayload gasLimit value salt e with
  | ok p =>
    obtain ⟨htruthy, hbs, hparts⟩ := build_eq_ok_iff_hasParts.mp hbuild
    have hcode : code.IsByteString p.code := by
      by_contra hother
      refine h (.taken (fun cs hcs => ?_) htruthy hparts.gasLimit.1 hparts.value.1 hbs hparts.initPayload)
      -- A byte string is turned into itself only.
      have hsame := Value.toBytes_of_yields (.itself hcs)
      rw [Value.toBytes_of_yields hbs] at hsame
      exact hother (Except.ok.inj hsame ▸ hcs)
    have hnonempty := (Value.isTruthy_of_isByteString hcode).mp htruthy
    exact .inl ⟨p, ⟨hcode, hnonempty, hparts⟩, hbuild⟩
  | error f =>
    refine .inr ⟨fun ⟨p, hp⟩ => ?_, f, hbuild, ?_⟩
    · rw [build_of_describes hp] at hbuild
      cases hbuild
    · by_cases hk : f.kind = .value
      · exact .inl hk
      · obtain ⟨htruthy, hgas, hvalue, hdefies | ⟨hencoding, -, hunwritten⟩⟩ :=
          (exists_build_error_iff hk).mp ⟨f, hbuild, rfl⟩
        · exact absurd (.unreported htruthy hgas hvalue hdefies hk) h
        · exact .inr ⟨hencoding, hunwritten⟩

/-- Right parts make their program and all others a fault of a value, but for codes that are no byte
strings. Of those, what can be turned into bytes is taken for the bytes, and what cannot is refused by
the fault of that. -/
theorem build_ends_in_descriptor_iff (code initPayload gasLimit value salt : Value) (e : Entropy) :
    (EndsInDescriptor code initPayload gasLimit value salt e ↔
      ¬ Strays code initPayload gasLimit value) ∧
    (∀ p, build code initPayload gasLimit value salt e = .ok p ↔
      code.isTruthy = true ∧ code.Yields p.code ∧ HasParts initPayload gasLimit value salt e p) ∧
    ∀ k, k ≠ .value →
      ((∃ f, build code initPayload gasLimit value salt e = .error f ∧ f.kind = k) ↔
        code.isTruthy = true ∧ gasLimit.IsAmount ∧ value.IsAmount ∧ (code.Defies k ∨
          k = .encoding ∧ (∃ bs, code.Yields bs) ∧ Payload.IsUnwritten initPayload)) := by
  refine ⟨⟨fun h hstrays => not_endsInDescriptor_of_strays hstrays h, endsInDescriptor_of_not_strays⟩,
    fun _ => build_eq_ok_iff_hasParts, fun _ hk => exists_build_error_iff hk⟩

theorem text_does_not_end_in_descriptor :
    (∃ f, build (.text "abc") .null defaultGasLimit defaultValue .null [7] = .error f ∧ f.kind = .type) ∧
    build (.int 3) .null defaultGasLimit defaultValue (.bytes [1]) [7] =
      .ok ⟨[0, 0, 0], defaultGasLimit, defaultValue, [], .bytes [1]⟩ ∧
    ¬ ∀ code initPayload gasLimit value salt e,
      EndsInDescriptor code initPayload gasLimit value salt e := by
  refine ⟨⟨.textWithoutEncoding, rfl, rfl⟩, rfl, fun h => ?_⟩
  have hstrays : Strays (.text "abc") .null defaultGasLimit defaultValue :=
    .unreported (by decide) ⟨1000000, rfl⟩ ⟨1000, rfl⟩ (.unfit (by decide)) (by decide)
  exact not_endsInDescriptor_of_strays hstrays (h _ _ _ _ .null [7])

end Program

end ProgramDeploy
