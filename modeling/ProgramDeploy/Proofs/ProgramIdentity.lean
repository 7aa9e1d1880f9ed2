import ProgramDeploy.Proofs.Rendering
import ProgramDeploy.Proofs.UploadSession

namespace ProgramDeploy

open ProgramDeploy.Action

def Event.identifies : Event → Bool
  | .log _ message =>
    "🚀 create_program ~ programId ".toList.isPrefixOf message.toList ||
      "🚀 create_program ~ codeId ".toList.isPrefixOf message.toList ||
      "🚀 create_program ~ salt ".toList.isPrefixOf message.toList
  | _ => false

def Carries (es : List Event) (heading text : String) : Prop :=
  (∃ before rest, es = before ++ .log .info (heading ++ text) :: rest ∧
    ∀ e ∈ before, e.isCall = false) ∧
  ∀ level other, .log level (heading ++ other) ∈ es → other = text

structure Identity.IsToldIn (i : Identity) (es : List Event) : Prop where
  programId : Carries es "🚀 create_program ~ programId " i.programId
  codeId : Carries es "🚀 create_program ~ codeId " i.codeId
  salt : Carries es "🚀 create_program ~ salt " i.salt

theorem mem_lines_of_identifies (made : Account × String) (i : Identity) {rest : List Event} {e : Event}
    (hrest : ∀ e ∈ rest, e.identifies = false) (he : e.identifies = true)
    (hmem : e ∈ Wallet.accountLine made :: i.lines ++ rest) : e ∈ i.lines := by
  rcases List.mem_append.mp hmem with h | h
  · rcases List.mem_cons.mp h with rfl | h
    · simp [Wallet.accountLine, Event.identifies, List.isPrefixOf] at he
    · exact h
  · simp [hrest e h] at he

theorem Identity.isCall_of_mem_lines {i : Identity} {e : Event} (h : e ∈ i.lines) : e.isCall = false := by
  simp only [lines, List.mem_cons, List.not_mem_nil, or_false] at h
  rcases h with rfl | rfl | rfl <;> rfl

theorem carries_of_mem_lines (made : Account × String) {i : Identity} {rest : List Event}
    {heading text : String} (hrest : ∀ e ∈ rest, e.identifies = false)
    (hmem : .log .info (heading ++ text) ∈ i.lines)
    (hheading : ∀ level other, (Event.log level (heading ++ other)).identifies = true)
    (hunique : ∀ level other, .log level (heading ++ other) ∈ i.lines → other = text) :
    Carries (Wallet.accountLine made :: i.lines ++ rest) heading text := by
  obtain ⟨before, behind, hlines⟩ := List.append_of_mem hmem
  refine ⟨⟨Wallet.accountLine made :: before, behind ++ rest, by simp [hlines], fun e he => ?_⟩, ?_⟩
  · rcases List.mem_cons.mp he with rfl | he
    · rfl
    · apply i.isCall_of_mem_lines
      rw [hlines]
      exact List.mem_append_left _ he
  · intro level other h
    exact hunique level other (mem_lines_of_identifies made i hrest (hheading level other) h)

theorem Identity.isToldIn_lines (made : Account × String) (i : Identity) {rest : List Event}
    (hrest : ∀ e ∈ rest, e.identifies = false) :
    i.IsToldIn (Wallet.accountLine made :: i.lines ++ rest) := by
  constructor
  · apply carries_of_mem_lines made hrest (by simp [lines])
    · simp [Event.identifies, List.isPrefixOf]
    · simp [lines, ← String.toList_inj]
  · apply carries_of_mem_lines made hrest (by simp [lines])
    · simp [Event.identifies, List.isPrefixOf]
    · simp [lines, ← String.toList_inj]
  · apply carries_of_mem_lines made hrest (by simp [lines])
    · simp [Event.identifies, List.isPrefixOf]
    · simp [lines, ← String.toList_inj]

structure UploadCall.Spells (c : UploadCall) (p : Program) (salt : Bytes) : Prop where
  code : Hex.unmarked? c.code = some p.code
  salt : Hex.unmarked? c.salt = some salt
  initPayload : Hex.unmarked? c.initPayload = some p.initPayload
  gasLimit : c.gasLimit = p.gasLimit
  value : c.value = p.value

def UploadCall.given (keepAlive : Value) : Option Value :=
  if Deployer.isNull keepAlive then none else some keepAlive

theorem UploadCall.ofValue_toValue {p : Program} {salt : Bytes} (hsalt : p.salt = .bytes salt)
    (keepAlive : Value) :
    ofValue p.toValue keepAlive = .ok ⟨Hex.marked p.code, Hex.marked salt, Hex.marked p.initPayload,
      p.gasLimit, p.value, given keepAlive⟩ := by
  have hfield : p.toValue.field "salt" = .ok (.bytes salt) := by
    rw [← hsalt]
    rfl
  have hmarked : hexField p.toValue "salt" = .ok (Hex.marked salt) := by
    rw [hexField, hfield]
    rfl
  unfold ofValue
  rw [hmarked]
  cases keepAlive <;> rfl

theorem UploadCall.eq_of_ofValue {p : Program} {salt : Bytes} {keepAlive : Value} {c : UploadCall}
    (hsalt : p.salt = .bytes salt) (h : ofValue p.toValue keepAlive = .ok c) :
    c = ⟨Hex.marked p.code, Hex.marked salt, Hex.marked p.initPayload, p.gasLimit, p.value,
      given keepAlive⟩ :=
  Except.ok.inj (h.symm.trans (ofValue_toValue hsalt keepAlive))

theorem UploadCall.spells_of_ofValue {p : Program} {salt : Bytes} {keepAlive : Value} {c : UploadCall}
    (hsalt : p.salt = .bytes salt) (h : ofValue p.toValue keepAlive = .ok c) : c.Spells p salt := by
  rw [eq_of_ofValue hsalt h]
  exact ⟨Hex.unmarked?_marked _, Hex.unmarked?_marked _, Hex.unmarked?_marked _, rfl, rfl⟩

theorem UploadCall.exists_summary (p : Program) {c : UploadCall} {gasLimit value : String}
    (hgas : c.gasLimit.shown = .ok gasLimit) (hvalue : c.value.shown = .ok value) :
    ∃ s, c.summary p.toValue = .ok s := by
  unfold summary
  rw [hgas, hvalue]
  exact ⟨_, rfl⟩

namespace Deployer

def IsAside (e : Event) : Prop :=
  e.isCall = false ∧ e.identifies = false

theorem meets_conclude (i : Identity) (u : Upload) (w : World) :
    Meets w IsAside (fun x => x = i.deployment u) (conclude i u) := by
  have htell (v : Value) :
      Meets w IsAside (fun _ => True) (do log .info ("Event: " ++ (← v.shown))) := by
    apply Meets.liftM_bind
    exact fun _ _ => meets_log (by simp [IsAside, Event.identifies, List.isPrefixOf])
  have hreport : Meets w IsAside (fun _ => True) (reportUpload i.programId u) := by
    apply (meets_forM u.events htell).bind
    intro _ _
    split
    · apply Meets.log_bind (by simp [IsAside, Event.identifies, List.isPrefixOf])
      apply Meets.liftM_bind
      exact fun _ _ => meets_log (by simp [IsAside, Event.identifies, List.isPrefixOf])
    · apply Meets.liftM_bind
      exact fun _ _ => meets_log (by simp [IsAside, Event.identifies, List.isPrefixOf])
  apply Meets.liftM_bind
  intro _ _
  apply Meets.log_bind (by simp [IsAside, Event.identifies, List.isPrefixOf])
  split
  · exact hreport.bind fun _ _ => meets_pure rfl
  · exact meets_pure rfl

theorem identifies_of_isUploading {d : Deployer} {program : Value} {signer : Account} {e : Event}
    (h : IsUploading d program signer e) : e.identifies = false := by
  cases h with
  | connecting provider => simp [Event.identifies, List.isPrefixOf]
  | composing made =>
    obtain ⟨rest, rfl⟩ := UploadCall.summary_eq made
    simp [Event.identifies, List.isPrefixOf]
  | signed => simp [Event.identifies, List.isPrefixOf]
  | _ => rfl

structure Presents (d : Deployer) (w : World) (n : Nat) (p : Program) (made : Account × String)
    (rest : List Event) (o : Outcome (Option Deployment)) : Prop where
  trace : o.trace = Wallet.accountLine made ::
    (Identity.ofParts p.code (Program.drawSalt w.entropy)).lines ++
      (((d.upload p.toValue made.1).run w n).trace ++ rest)
  aside : ∀ e ∈ rest, IsAside e
  result : ∀ x, o.result = .ok (some x) → ∃ u, ((d.upload p.toValue made.1).run w n).result = .ok u ∧
    x = (Identity.ofParts p.code (Program.drawSalt w.entropy)).deployment u

variable (d : Deployer) (code initPayload : Value) (w : World) (n : Nat)

theorem create_eq_deploy : ∃ tail, (∀ e ∈ tail, IsAside e) ∧
    ((d.create code initPayload).run w n).trace =
      ((d.deploy code initPayload).run w n).trace ++ tail ∧
    ∀ x, ((d.create code initPayload).run w n).result = .ok (some x) →
      ((d.deploy code initPayload).run w n).result = .ok x := by
  rw [create, run_handling, run_map]
  cases hdeploy : ((d.deploy code initPayload).run w n).result with
  | ok y => exact ⟨[], by simp, by simp [Except.map], by simp [Except.map]⟩
  | error f =>
    cases hi : f.isInterrupt with
    | true => exact ⟨[], by simp, by simp [Except.map, hi], by simp [Except.map, hi]⟩
    | false =>
      cases htext : f.text with
      | error g =>
        refine ⟨[], by simp, ?_, ?_⟩ <;> simp [Except.map, hi, logFault, run_bind, htext]
      | ok text =>
        refine ⟨[.log .error ("🚀 create_program ~ error: " ++ text)], ?_, ?_, ?_⟩
        · simp [IsAside, Event.identifies, List.isPrefixOf]
        · simp [Except.map, hi, logFault, run_bind, htext]
        · simp [Except.map, hi, logFault, run_bind, htext]

variable {d code initPayload w n} in
theorem create_presents_of_ok {p : Program} {made : Account × String}
    (hp : d.descriptor code initPayload w.entropy = .ok p) (hmade : Wallet.derive d.config = .ok made) :
    ∃ rest, Presents d w n p made rest ((d.create code initPayload).run w n) := by
  obtain ⟨tail, htail, htrace, hresult⟩ := d.create_eq_deploy code initPayload w n
  have hrun := d.run_deploy code initPayload w n
  rw [hp, hmade] at hrun
  simp only [Outcome.settle_ok] at hrun
  rw [hrun] at htrace hresult
  cases hu : ((d.upload p.toValue made.1).run w n).result with
  | error f =>
    rw [run_bind_of_error w n hu] at htrace hresult
    exact ⟨tail, by simpa using htrace, htail, fun x hx => nomatch hresult x hx⟩
  | ok u =>
    rw [run_bind_of_ok w n hu] at htrace hresult
    have hmeets := meets_conclude (Identity.ofParts p.code (Program.drawSalt w.entropy)) u w
    refine ⟨_, by simpa using htrace, ?_, fun x hx => ?_⟩
    · intro e he
      exact (List.mem_append.mp he).elim (hmeets.shows _ e) (htail e)
    · exact ⟨u, hu, hmeets.returns _ x (hresult x hx)⟩

theorem create_presents :
    ((∀ e ∈ ((d.create code initPayload).run w n).trace, IsAside e) ∧
      ∀ x, ((d.create code initPayload).run w n).result ≠ .ok (some x)) ∨
    ∃ p made rest, d.descriptor code initPayload w.entropy = .ok p ∧
      Wallet.derive d.config = .ok made ∧
      Presents d w n p made rest ((d.create code initPayload).run w n) := by
  obtain ⟨tail, htail, htrace, hresult⟩ := d.create_eq_deploy code initPayload w n
  -- A fault before the upload leaves nothing but its own line.
  have hrun := d.run_deploy code initPayload w n
  cases hp : d.descriptor code initPayload w.entropy with
  | error f =>
    rw [hp, Outcome.settle_error] at hrun
    rw [hrun] at htrace hresult
    exact .inl ⟨by simpa [htrace] using htail, fun x hx => nomatch hresult x hx⟩
  | ok p =>
    cases hmade : Wallet.derive d.config with
    | error f =>
      rw [hp, hmade, Outcome.settle_ok, Outcome.settle_error] at hrun
      rw [hrun] at htrace hresult
      exact .inl ⟨by simpa [htrace] using htail, fun x hx => nomatch hresult x hx⟩
    | ok made =>
      obtain ⟨rest, hpresents⟩ := create_presents_of_ok hp hmade
      exact .inr ⟨p, made, rest, rfl, rfl, hpresents⟩

theorem Presents.isToldIn {d : Deployer} {w : World} {n : Nat} {p : Program} {made : Account × String}
    {rest : List Event} {o : Outcome (Option Deployment)} (h : Presents d w n p made rest o) :
    (Identity.ofParts p.code (Program.drawSalt w.entropy)).IsToldIn o.trace := by
  rw [h.trace]
  apply Identity.isToldIn_lines
  intro e he
  rcases List.mem_append.mp he with he | he
  · exact identifies_of_isUploading (d.isUploading_of_mem_trace p.toValue made.1 he)
  · exact (h.aside e he).2

theorem Presents.calls {d : Deployer} {w : World} {n : Nat} {p : Program} {made : Account × String}
    {rest : List Event} {o : Outcome (Option Deployment)} (h : Presents d w n p made rest o) :
    o.trace.filter Event.isCall = ((d.upload p.toValue made.1).run w n).trace.filter Event.isCall := by
  have hrest : rest.filter Event.isCall = [] := by
    rw [List.filter_eq_nil_iff]
    intro e he
    simp [(h.aside e he).1]
  rw [h.trace]
  simp [hrest, Wallet.accountLine, Identity.lines]

theorem Presents.mem_upload_of_isCall {d : Deployer} {w : World} {n : Nat} {p : Program}
    {made : Account × String} {rest : List Event} {o : Outcome (Option Deployment)} {e : Event}
    (h : Presents d w n p made rest o) (he : e ∈ o.trace) (hcall : e.isCall = true) :
    e ∈ ((d.upload p.toValue made.1).run w n).trace := by
  have hfilter := List.mem_filter.mpr ⟨he, hcall⟩
  rw [h.calls] at hfilter
  exact (List.mem_filter.mp hfilter).1

theorem calls_mem_create_of_submits {d : Deployer} {code initPayload : Value} {w : World} {n : Nat} {p : Program}
    {made : Account × String} {c : Client} {provider gasLimit value : String}
    {keepAlive inclusion finalization : Value} (hsubmits : (w.network.session n).Submits)
    (hp : d.descriptor code initPayload w.entropy = .ok p) (hmade : Wallet.derive d.config = .ok made)
    (hclient : d.client = some c) (hprovider : c.providerAddress.shown = .ok provider)
    (hkeep : d.program.fieldOrNull "keep_alive" = .ok keepAlive)
    (hgas : p.gasLimit.shown = .ok gasLimit) (hvalue : p.value.shown = .ok value)
    (hwaits : d.submission.field "wait_for_inclusion" = .ok inclusion)
    (hwaits' : d.submission.field "wait_for_finalization" = .ok finalization) :
    ∃ call, .compose call ∈ ((d.create code initPayload).run w n).trace ∧
      .submit inclusion finalization ∈ ((d.create code initPayload).run w n).trace := by
  have hcall := UploadCall.ofValue_toValue (d.salt_of_descriptor code initPayload hp) keepAlive
  obtain ⟨summary, hsummary⟩ :=
    UploadCall.exists_summary p (c := ⟨_, _, _, p.gasLimit, p.value, _⟩) hgas hvalue
  obtain ⟨hcompose, hsubmit⟩ := calls_mem_of_submits made.1 hclient hprovider hsubmits hkeep hcall hsummary
    hwaits hwaits'
  obtain ⟨tail, -, htrace, -⟩ := d.create_eq_deploy code initPayload w n
  have hmem (e : Event) (he : e ∈ ((d.upload p.toValue made.1).run w n).trace) :
      e ∈ ((d.create code initPayload).run w n).trace := by
    rw [htrace, run_deploy, hp, hmade]
    simp only [Outcome.settle_ok, Outcome.trace_after]
    exact List.mem_append_left _ (List.mem_append_right _ (mem_trace_bind_of_mem w n he))
  exact ⟨_, hmem _ hcompose, hmem _ hsubmit⟩

theorem calls_mem_create {d : Deployer} {code initPayload : Value} {w : World} {n : Nat} {p : Program}
    {made : Account × String} {c : Client} {provider gasLimit value : String}
    {keepAlive inclusion finalization : Value} (hanswers : (w.network.session n).Answers)
    (hp : d.descriptor code initPayload w.entropy = .ok p) (hmade : Wallet.derive d.config = .ok made)
    (hclient : d.client = some c) (hprovider : c.providerAddress.shown = .ok provider)
    (hkeep : d.program.fieldOrNull "keep_alive" = .ok keepAlive)
    (hgas : p.gasLimit.shown = .ok gasLimit) (hvalue : p.value.shown = .ok value)
    (hwaits : d.submission.field "wait_for_inclusion" = .ok inclusion)
    (hwaits' : d.submission.field "wait_for_finalization" = .ok finalization) :
    ∃ call, .compose call ∈ ((d.create code initPayload).run w n).trace ∧
      .submit inclusion finalization ∈ ((d.create code initPayload).run w n).trace :=
  calls_mem_create_of_submits hanswers.submits hp hmade hclient hprovider hkeep hgas hvalue hwaits hwaits'

/-- The call, the lines and the result of a deployment are about one program. -/
theorem create_identifies (d : Deployer) (code initPayload : Value) (w : World) (n : Nat) :
    let o := (d.create code initPayload).run w n
    (∀ call, .compose call ∈ o.trace → ∃ p salt,
      ((d.buildProgram code initPayload).run w n).result = .ok p ∧ p.salt = .bytes salt ∧
      call.Spells p salt ∧
      Carries o.trace "🚀 create_program ~ codeId " (Hex.marked (Hash.Blake2b.digest 32 p.code)) ∧
      Carries o.trace "🚀 create_program ~ programId " (Hex.marked (Hash.Blake2b.digest 32
        (Text.Utf8.encode "program_from_user" ++ Hash.Blake2b.digest 32 p.code ++ salt))) ∧
      Carries o.trace "🚀 create_program ~ salt " call.salt) ∧
    ∀ x, o.result = .ok (some x) → ∃ call, .compose call ∈ o.trace ∧ x.salt = call.salt ∧
      Carries o.trace "🚀 create_program ~ programId " x.programId ∧
      Carries o.trace "🚀 create_program ~ codeId " x.codeId ∧
      Carries o.trace "🚀 create_program ~ salt " x.salt := by
  intro o
  rcases d.create_presents code initPayload w n with ⟨haside, hnone⟩ | ⟨p, made, rest, hp, -, hpresents⟩
  · refine ⟨fun call hcall => ?_, fun x hx => absurd hx (hnone x)⟩
    have hlog := (haside _ hcall).1
    cases hlog
  have hsalt := d.salt_of_descriptor code initPayload hp
  have htold := hpresents.isToldIn
  have hspells (call : UploadCall) (hcall : .compose call ∈ o.trace) :
      ∃ keepAlive, UploadCall.ofValue p.toValue keepAlive = .ok call := by
    have hmem := hpresents.mem_upload_of_isCall hcall rfl
    cases d.isUploading_of_mem_trace p.toValue made.1 hmem with
    | compose keep made => exact ⟨_, made⟩
  constructor
  · intro call hcall
    obtain ⟨keepAlive, hmade⟩ := hspells call hcall
    have hsalt' : call.salt = Hex.marked (Program.drawSalt w.entropy) := by
      rw [UploadCall.eq_of_ofValue hsalt hmade]
    refine ⟨p, _, by rw [run_buildProgram, hp], hsalt, UploadCall.spells_of_ofValue hsalt hmade,
      htold.codeId, htold.programId, ?_⟩
    rw [hsalt']
    exact htold.salt
  · intro x hx
    obtain ⟨u, hu, rfl⟩ := hpresents.result x hx
    obtain ⟨call, hcall⟩ := d.composes_of_upload p.toValue made.1 hu
    have hcall' : .compose call ∈ o.trace := by
      simp only [o, hpresents.trace]
      simp [hcall]
    obtain ⟨keepAlive, hmade⟩ := hspells call hcall'
    refine ⟨call, hcall', ?_, htold.programId, htold.codeId, htold.salt⟩
    rw [UploadCall.eq_of_ofValue hsalt hmade]
    rfl

theorem create_identifies_seeded :
    ∃ call p salt,
      .compose call ∈ ((seeded.create (.bytes [0]) .null).run ⟨.empty, .empty, [7], []⟩ 0).trace ∧
      call.Spells p salt ∧
      Carries ((seeded.create (.bytes [0]) .null).run ⟨.empty, .empty, [7], []⟩ 0).trace
        "🚀 create_program ~ salt " call.salt := by
  obtain ⟨made, hmade⟩ := exists_derive_seeded
  have hp : seeded.descriptor (.bytes [0]) .null [7] =
      .ok ⟨[0], .int 1000000, .int 1000, [], .bytes (List.replicate 20 7)⟩ := rfl
  have hshort (n : Int) (h : n.natAbs < Nat.pow 10 7) : Numeral.IsShort n :=
    Numeral.isShort_of_lt (by decide) h
  obtain ⟨gasLimit, hgas⟩ := Value.shown_int_of_isShort (hshort 1000000 (by decide))
  obtain ⟨value, hvalue⟩ := Value.shown_int_of_isShort (hshort 1000 (by decide))
  obtain ⟨call, hcompose, -⟩ := calls_mem_create (w := ⟨.empty, .empty, [7], []⟩) (n := 0)
    Script.answers_plain hp hmade rfl rfl rfl hgas hvalue rfl rfl
  obtain ⟨p, salt, -, -, hspells, -, -, hsalt⟩ :=
    (create_identifies seeded (.bytes [0]) .null ⟨.empty, .empty, [7], []⟩ 0).1 call hcompose
  exact ⟨call, p, salt, hcompose, hspells, hsalt⟩

end Deployer

end ProgramDeploy
