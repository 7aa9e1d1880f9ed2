import ProgramDeploy.Proofs.AccountRefusals
import ProgramDeploy.Proofs.AccountReports
import ProgramDeploy.Proofs.AddressRoundTrip
import ProgramDeploy.Proofs.SecretUriGrammar

namespace ProgramDeploy

inductive Value.ReadsAs : Value → List Char → List Kind → Prop where
  | text (s : String) : ReadsAs (.text s) s.toList [.value]
  | torn (t : Text.Torn) : ReadsAs (.torn t) t.chars [.value, .encoding]

theorem Value.ReadsAs.value_mem {v : Value} {cs : List Char} {kinds : List Kind} (h : v.ReadsAs cs kinds) :
    .value ∈ kinds := by
  cases h <;> exact List.mem_cons_self

abbrev Fault.IsOf (kinds : List Kind) (f : Fault) : Prop :=
  f.kind ∈ kinds

section Deriving

variable {kinds : List Kind} (hvalue : .value ∈ kinds)

include hvalue

theorem Value.isOf_shown (v : Value) : FailsWith (Fault.IsOf kinds) v.shown := by
  intro f h
  rw [Fault.IsOf, v.kind_of_shown h]
  exact hvalue

theorem Value.isOf_readInteger (literal : String) (cs : List Char) :
    FailsWith (Fault.IsOf kinds) (readInteger literal cs) := by
  unfold readInteger
  split
  · exact .ok _
  · exact .error hvalue
  · exact .error hvalue

namespace Junction

theorem isOf_hex (digits : List Char) : FailsWith (Fault.IsOf kinds) ((Hex.read digits).mapError .hex) :=
  .mapError fun _ => hvalue

theorem isOf_codeOfName (name : List Char) : FailsWith (Fault.IsOf kinds) (codeOfName name) := by
  unfold codeOfName
  split
  · exact (Value.isOf_readInteger hvalue _ _).bind fun _ _ => .ok _
  · split
    · exact (isOf_hex hvalue _).bind fun _ _ => .ok _
    · exact .ok _

theorem isOf_codeOfPoints (hencoding : .encoding ∈ kinds) (name : List Text.Point) :
    FailsWith (Fault.IsOf kinds) (codeOfPoints name) := by
  unfold codeOfPoints
  dsimp only
  split
  · split
    · exact (isOf_hex hvalue _).bind fun _ _ => .ok _
    · exact .error hencoding
  · exact isOf_codeOfName hvalue _

theorem isOf_apply (s : Secret) (j : Junction) : FailsWith (Fault.IsOf kinds) (apply s j) := by
  unfold apply
  split
  · exact .ok _
  · exact .error hvalue

end Junction

end Deriving

namespace Account

open SecretUri

inductive Breaks (cs : List Char) : Fault → Prop where
  | unmatched (hs : cs ≠ []) (hno : ∀ password, ¬ Matches (completed cs) password) : Breaks cs .noSecretUri
  | password {password : List Char} (huri : Matches (completed cs) password)
      (hne : password ≠ []) : Breaks cs .passwordUnsupported

variable {v name format : Value} {cs : List Char} {kinds : List Kind} {k : Nat}

theorem Breaks.not_isOf {f : Fault} (h : Breaks cs f) (hreads : v.ReadsAs cs kinds) : ¬ f.IsOf kinds := by
  cases h <;> cases hreads <;> decide

section Making

variable (hvalue : .value ∈ kinds)

include hvalue

theorem isOf_phrase {x : Except Phrase.Fault Bytes} : FailsWith (Fault.IsOf kinds) (x.mapError .phrase) :=
  .mapError fun _ => hvalue

omit hvalue in
theorem isOf_ofPublicKey (hformat : IsFormat format k) (s : Secret) :
    FailsWith (Fault.IsOf kinds) (ofPublicKey s.publicKey format) := by
  rw [ofPublicKey_of_isFormat hformat]
  exact .ok _

theorem isOf_ofPath (hformat : IsFormat format k) (entropy : Except Phrase.Fault Bytes)
    {junctions : Except Fault (List Junction)} (hjunctions : FailsWith (Fault.IsOf kinds) junctions) :
    FailsWith (Fault.IsOf kinds) (ofPath entropy junctions format) := by
  unfold ofPath
  rw [formatNumber_of_isFormat hformat]
  refine (isOf_phrase hvalue).bind fun root _ => (FailsWith.ok k).bind fun _ _ => ?_
  refine hjunctions.bind fun js _ => ?_
  exact (FailsWith.foldlM (Junction.isOf_apply hvalue) _ js).bind fun leaf _ => isOf_ofPublicKey hformat leaf

end Making

theorem isOf_phraseWords (hreads : v.ReadsAs cs kinds) : FailsWith (Fault.IsOf kinds) (phraseWords v) := by
  unfold phraseWords
  split
  · exact .ok _
  · cases hreads with
    | text s => exact .ok _
    | torn t => exact .error (.tail _ (.head _))

theorem isOf_ofMnemonic (hreads : v.ReadsAs cs kinds) (hformat : IsFormat format k) :
    FailsWith (Fault.IsOf kinds) (ofMnemonic v name format) := by
  refine (isOf_phraseWords hreads).bind fun words _ => ?_
  dsimp only
  split
  · exact (name.isOf_shown hreads.value_mem).bind fun _ _ => .error hreads.value_mem
  · exact (isOf_phrase hreads.value_mem).bind fun _ _ => isOf_ofPublicKey hformat _

def ofParts (u : SecretUri) (v format : Value) : Except Fault Account :=
  match v with
  | .torn t => ofTornUri u t format
  | _ => ofParsedUri u format

theorem isOf_ofParts (hreads : v.ReadsAs cs kinds) (hformat : IsFormat format k) {u : SecretUri}
    (hu : u.password = []) : FailsWith (Fault.IsOf kinds) (ofParts u v format) := by
  cases hreads with
  | text s =>
    show FailsWith _ (ofParsedUri u format)
    unfold ofParsedUri
    rw [hu]
    refine isOf_ofPath (by decide) hformat _ (.mapM (fun _ => ?_) _)
    exact (Junction.isOf_codeOfName (by decide) _).bind fun _ _ => .ok _
  | torn t =>
    show FailsWith _ (ofTornUri u t format)
    unfold ofTornUri
    rw [hu, List.isEmpty_nil, Bool.not_true, if_neg Bool.false_ne_true]
    split
    · exact .error (.tail _ (.head _))
    · refine isOf_ofPath (by decide) hformat _ (.mapM (fun _ => ?_) _)
      exact (Junction.isOf_codeOfPoints (by decide) (by decide) _).bind fun _ _ => .ok _

theorem ofParts_of_password {u : SecretUri} (hu : u.password ≠ []) :
    ofParts u v format = .error .passwordUnsupported := by
  have hnonempty := List.isEmpty_eq_false_iff.mpr hu
  cases v with
  | torn t =>
    show ofTornUri u t format = _
    rw [ofTornUri, hnonempty]
    rfl
  | _ =>
    show ofParsedUri u format = _
    rw [ofParsedUri, hnonempty]
    rfl

theorem ofUri_of_readsAs (hreads : v.ReadsAs cs kinds) (hcs : cs ≠ []) :
    ofUri v name format =
      match parse? cs with
      | none => .error .noSecretUri
      | some u => ofParts u v format := by
  cases hreads with
  | text s =>
    have htruthy : (Value.text s).isTruthy = true := by simpa [Value.isTruthy] using hcs
    rw [ofUri, htruthy]
    rfl
  | torn t => rfl

theorem ofUri_of_breaks (hreads : v.ReadsAs cs kinds) {f : Fault} (h : Breaks cs f) :
    ofUri v name format = .error f := by
  cases h with
  | unmatched hs hno => rw [ofUri_of_readsAs hreads hs, parse?_eq_none_iff.mpr hno]
  | password huri hne =>
    obtain ⟨u, hu, rfl⟩ := exists_parse?_iff.mpr huri
    have hs : cs ≠ [] := by
      rintro rfl
      cases hu
    rw [ofUri_of_readsAs hreads hs, hu]
    exact ofParts_of_password hne

theorem failsWith_ofUri (hreads : v.ReadsAs cs kinds) (hformat : IsFormat format k) :
    FailsWith (fun f => f.IsOf kinds ∨ Breaks cs f) (ofUri v name format) := by
  by_cases hs : cs = []
  · cases hreads with
    | text s =>
      have hempty : s = "" := String.toList_eq_nil_iff.mp hs
      rw [hempty]
      exact FailsWith.bind (fun f hf => .inl (name.isOf_shown (.head _) f hf)) fun _ _ => .error (.inl (.head _))
    | torn t =>
      have hnil : t.points = [] := List.map_eq_nil_iff.mp hs
      have htorn := t.torn
      simp [hnil] at htorn
  · rw [ofUri_of_readsAs hreads hs]
    cases hu : parse? cs with
    | none => exact .error (.inr (.unmatched hs (parse?_eq_none_iff.mp hu)))
    | some u =>
      by_cases hpassword : u.password = []
      · exact fun f hf => .inl (isOf_ofParts hreads hformat hpassword f hf)
      · dsimp only
        rw [ofParts_of_password hpassword]
        exact .error (.inr (.password (exists_parse?_iff.mp ⟨u, hu, rfl⟩) hpassword))

end Account

namespace Wallet

open Account SecretUri

def EndsInAccount (kinds : List Kind) (made : Action Account) (name format : Value) (k : Nat) (w : World)
    (n : Nat) : Prop :=
  (∃ s label, name.shown = .ok label ∧
    made.run w n = ⟨.ok (ofSecret s format k), [accountLine (ofSecret s format k, label)], n⟩) ∨
  ∃ f, made.run w n = ⟨.error f, [], n⟩ ∧ f.IsOf kinds

variable {made : Except Fault Account} {v name format : Value} {cs : List Char} {kinds : List Kind} {k : Nat}
  (w : World) (n : Nat)

theorem run_report_cases (hvalue : .value ∈ kinds) (hformat : IsFormat format k)
    (hmade : ∀ a, made = .ok a → ∃ s : Secret, ofPublicKey s.publicKey format = .ok a) :
    EndsInAccount kinds (report made name) name format k w n ∨
      ∃ f, (report made name).run w n = ⟨.error f, [], n⟩ ∧ made = .error f := by
  cases h : made with
  | error f => exact .inr ⟨f, run_report_of_error w n rfl, rfl⟩
  | ok a =>
    obtain ⟨s, hs⟩ := hmade a h
    rw [ofPublicKey_of_isFormat hformat] at hs
    cases hs
    -- Only the name may still fail, with a value.
    cases hname : name.shown with
    | ok label => exact .inl (.inl ⟨s, label, hname, run_report_of_ok w n rfl hname⟩)
    | error f =>
      exact .inl (.inr ⟨f, run_report_of_unshown w n rfl hname, name.isOf_shown hvalue f hname⟩)

theorem fromMnemonic_endsInAccount (hreads : v.ReadsAs cs kinds) (hformat : IsFormat format k) :
    EndsInAccount kinds (fromMnemonic v name format) name format k w n := by
  obtain h | ⟨f, hrun, hf⟩ :=
    run_report_cases w n hreads.value_mem hformat fun _ => exists_secret_of_ofMnemonic
  · exact h
  · exact .inr ⟨f, hrun, isOf_ofMnemonic hreads hformat f hf⟩

theorem fromUri_endsInAccount_or_breaks (hreads : v.ReadsAs cs kinds) (hformat : IsFormat format k) :
    EndsInAccount kinds (fromUri v name format) name format k w n ∨
      ∃ f, (fromUri v name format).run w n = ⟨.error f, [], n⟩ ∧ Breaks cs f := by
  obtain h | ⟨f, hrun, hf⟩ := run_report_cases w n hreads.value_mem hformat fun _ => exists_secret_of_ofUri
  · exact .inl h
  · obtain hvalue | hbreaks := failsWith_ofUri hreads hformat f hf
    · exact .inl (.inr ⟨f, hrun, hvalue⟩)
    · exact .inr ⟨f, hrun, hbreaks⟩

theorem run_fromUri_of_breaks (hreads : v.ReadsAs cs kinds) {f : Fault} (h : Breaks cs f) :
    (fromUri v name format).run w n = ⟨.error f, [], n⟩ :=
  run_report_of_error w n (ofUri_of_breaks hreads h)

theorem not_endsInAccount_of_run {action : Action Account} {f : Fault}
    (hrun : action.run w n = ⟨.error f, [], n⟩) (hf : ¬ f.IsOf kinds) :
    ¬ EndsInAccount kinds action name format k w n := by
  rintro (⟨s, label, -, h⟩ | ⟨g, hg, hvalue⟩)
  · rw [hrun] at h
    cases h
  · rw [hrun] at hg
    cases hg
    exact hf hvalue

/-- A phrase makes an account, which is logged in one line, or is refused as a wrong value. So is a URI,
but for those with a password and for texts that are not URIs: these two are refused by faults of their
own. -/
theorem secrets_end_in_account_iff (hreads : v.ReadsAs cs kinds) (name : Value) {format : Value} {k : Nat}
    (hformat : IsFormat format k) (w : World) (n : Nat) :
    EndsInAccount kinds (fromMnemonic v name format) name format k w n ∧
    (EndsInAccount kinds (fromUri v name format) name format k w n ↔ ¬ ∃ f, Breaks cs f) ∧
    ∀ f, ¬ f.IsOf kinds →
      ((fromUri v name format).run w n = ⟨.error f, [], n⟩ ↔ Breaks cs f) := by
  have hcases : EndsInAccount kinds (fromUri v name format) name format k w n ∨ _ :=
    fromUri_endsInAccount_or_breaks w n hreads hformat
  refine ⟨fromMnemonic_endsInAccount w n hreads hformat, ⟨?_, ?_⟩,
    fun f hf => ⟨?_, run_fromUri_of_breaks w n hreads⟩⟩
  · rintro hends ⟨f, hf⟩
    exact not_endsInAccount_of_run w n (run_fromUri_of_breaks w n hreads hf) (hf.not_isOf hreads) hends
  · rintro hno
    exact hcases.resolve_right fun ⟨f, _, hf⟩ => hno ⟨f, hf⟩
  · intro hrun
    obtain ⟨g, hg, hbreaks⟩ := hcases.resolve_left (not_endsInAccount_of_run w n hrun hf)
    rw [hrun] at hg
    cases hg
    exact hbreaks

theorem secrets_end_in_account_iff_of_step :
    IsFormat (.int 137) 137 ∧
      EndsInAccount [.value] (fromUri (.text "//Alice") (.text "Anme") (.int 137)) (.text "Anme") (.int 137) 137
        ⟨.empty, .empty, [], []⟩ 0 ∧
      (fromUri (.text "a") (.text "Anme") (.int 137)).run ⟨.empty, .empty, [], []⟩ 0 =
        ⟨.error .noSecretUri, [], 0⟩ := by
  have hformat : IsFormat (.int 137) 137 := ⟨rfl, by decide, by decide⟩
  obtain ⟨-, halice, -⟩ := secrets_end_in_account_iff (.text "//Alice") (.text "Anme") hformat
    ⟨.empty, .empty, [], []⟩ 0
  obtain ⟨-, -, hletter⟩ := secrets_end_in_account_iff (.text "a") (.text "Anme") hformat
    ⟨.empty, .empty, [], []⟩ 0
  have hphrase : IsPhrase developmentPhrase := .first (by decide) ⟨by decide, by decide⟩
  have hname : IsRun "Alice".toList := ⟨by decide, by decide⟩
  have hpath : IsPath "//Alice".toList := .hard hname .nil
  have huri := Matches.parts hphrase hpath .bare
  rw [List.append_nil] at huri
  have hno : parse? "a".toList = none := rfl
  refine ⟨hformat, halice.mpr ?_, (hletter _ (by decide)).mpr (.unmatched (by decide) ?_)⟩
  · rintro ⟨f, hf⟩
    cases hf with
    | unmatched _ hno => exact hno _ huri
    | password hpassword hne => exact hne (hpassword.password_eq huri)
  · exact parse?_eq_none_iff.mp hno

theorem letter_does_not_end_in_account :
    Fault.noSecretUri.kind = .attribute ∧
    (fromUri (.text "a") (.text "Anme") (.int 137)).run ⟨.empty, .empty, [], []⟩ 0 =
      ⟨.error .noSecretUri, [], 0⟩ ∧
    ¬ ∀ s name format k w n, IsFormat format k →
      EndsInAccount [.value] (fromUri (.text s) name format) name format k w n := by
  have hno : parse? "a".toList = none := rfl
  have hbreaks : Breaks "a".toList .noSecretUri := .unmatched (by decide) (parse?_eq_none_iff.mp hno)
  have hrun : (fromUri (.text "a") (.text "Anme") (.int 137)).run ⟨.empty, .empty, [], []⟩ 0 =
      ⟨.error .noSecretUri, [], 0⟩ := run_fromUri_of_breaks _ _ (.text "a") hbreaks
  refine ⟨rfl, hrun, fun h => ?_⟩
  have hends := h "a" (.text "Anme") (.int 137) 137 ⟨.empty, .empty, [], []⟩ 0 ⟨rfl, by decide, by decide⟩
  exact not_endsInAccount_of_run _ _ hrun (by decide) hends

end Wallet

end ProgramDeploy
