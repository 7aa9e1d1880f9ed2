import ProgramDeploy.Proofs.DeploymentParts

namespace ProgramDeploy

open ProgramDeploy.Action

namespace Event

def isConnect : Event → Bool
  | connect .. => true
  | _ => false

def isClose : Event → Bool
  | close => true
  | _ => false

theorem isCall_of_isConnect {e : Event} (h : e.isConnect = true) : e.isCall = true := by
  cases e with
  | connect => rfl
  | _ => cases h

theorem isCall_of_isClose {e : Event} (h : e.isClose = true) : e.isCall = true := by
  cases e with
  | close => rfl
  | _ => cases h

end Event

theorem countP_filter_isCall {p : Event → Bool} (hp : ∀ e, p e = true → e.isCall = true)
    (es : List Event) : (es.filter Event.isCall).countP p = es.countP p := by
  rw [List.countP_filter]
  apply List.countP_congr
  intro e _
  simpa using hp e

theorem prefix_eq_of_countP {α : Type} {p : α → Bool} {xs ys xs' ys' : List α} {x x' : α}
    (h : xs ++ x :: ys = xs' ++ x' :: ys') (hx : p x = true) (hx' : p x' = true)
    (hcount : xs.countP p = xs'.countP p) : xs = xs' := by
  rcases List.append_eq_append_iff.mp h with ⟨zs, rfl, hzs⟩ | ⟨zs, rfl, hzs⟩
  · cases zs with
    | nil => simp
    | cons z zs =>
      cases hzs
      simp [hx] at hcount
  · cases zs with
    | nil => simp
    | cons z zs =>
      cases hzs
      simp [hx'] at hcount

namespace Run

/-- The calls stand in two sessions at most. The second is opened once the first, in which the node has
told about itself, is closed, and only the second has an upload. -/
structure Ordered (s : Script) (es : List Event) : Prop where
  connects : es.countP Event.isConnect ≤ 2
  second : ∀ before url format behind, es = before ++ .connect url format :: behind →
    0 < before.countP Event.isConnect →
    (∃ c : Client, before.filter Event.isCall = c.infoSession) ∧ Client.InfoAnswered s
  composes : ∀ before call behind, es = before ++ .compose call :: behind →
    before.countP Event.isConnect = 2 ∧ before.countP Event.isClose = 1

namespace Ordered

variable {s : Script} {es : List Event}

theorem of_filter (h : Ordered s (es.filter Event.isCall)) : Ordered s es := by
  have hconnect := countP_filter_isCall fun _ => Event.isCall_of_isConnect
  have hclose := countP_filter_isCall fun _ => Event.isCall_of_isClose
  constructor
  · exact hconnect _ ▸ h.connects
  · rintro before url format behind rfl hbefore
    have hsecond := h.second (before.filter Event.isCall) url format (behind.filter Event.isCall)
      (by simp) (by rwa [hconnect])
    simpa only [List.filter_filter, Bool.and_self] using hsecond
  · rintro before call behind rfl
    have hcomposes := h.composes (before.filter Event.isCall) call (behind.filter Event.isCall)
      (by rw [List.filter_append, List.filter_cons_of_pos rfl])
    rwa [hconnect, hclose] at hcomposes

theorem nil : Ordered s [] := by
  constructor <;> simp

end Ordered

theorem count_of_calls {es : List Event} (h : ∀ e ∈ es, e.call?.isSome = true) :
    es.countP Event.isConnect = 0 ∧ es.countP Event.isClose = 0 := by
  constructor
  · apply List.countP_eq_zero.mpr
    intro e he
    have hsome := h e he
    cases e <;> simp_all [Event.call?, Event.isConnect]
  · apply List.countP_eq_zero.mpr
    intro e he
    have hsome := h e he
    cases e <;> simp_all [Event.call?, Event.isClose]

theorem isSome_of_shown {es : List Event} {made : List Call} (h : es.map Event.call? = made.map some) :
    ∀ e ∈ es, e.call?.isSome = true := by
  intro e he
  obtain ⟨c, -, hc⟩ := List.mem_map.mp (h ▸ List.mem_map_of_mem he)
  rw [← hc]
  rfl

theorem connects_of_isBlock {p : Purpose} {s : Script} {es : List Event} (h : IsBlock p s es) :
    ∃ url format rest, es = .connect url format :: rest ∧ rest.countP Event.isConnect = 0 := by
  cases h with
  | refused url format f connect => exact ⟨url, format, [], rfl, rfl⟩
  | closed url format made es connect planned answered shown =>
    refine ⟨url, format, es ++ [.close], rfl, ?_⟩
    rw [List.countP_append, (count_of_calls (isSome_of_shown shown)).1]
    rfl

theorem count_before_call {p : Purpose} {s : Script} {before behind : List Event} {e : Event}
    (h : IsBlock p s (before ++ e :: behind)) (he : e.call?.isSome = true) :
    before.countP Event.isConnect = 1 ∧ before.countP Event.isClose = 0 := by
  generalize hes : before ++ e :: behind = es at h
  cases before with
  | nil =>
    obtain ⟨url, format, rest, rfl, -⟩ := connects_of_isBlock h
    cases hes
    cases he
  | cons e' before =>
    cases h with
    | refused => simp at hes
    | closed url format made es connect planned answered shown =>
      have hcalls := isSome_of_shown shown
      obtain ⟨rfl, hrest⟩ := List.cons.inj hes
      have hbefore : ∀ e ∈ before, e.call?.isSome = true := by
        rcases List.append_eq_append_iff.mp hrest with ⟨zs, rfl, -⟩ | ⟨zs, rfl, hzs⟩
        · exact fun e he => hcalls e (List.mem_append_left _ he)
        · cases zs with
          | nil =>
            cases hzs
            cases he
          | cons z zs => simp at hzs
      obtain ⟨hconnect, hclose⟩ := count_of_calls hbefore
      exact ⟨by rw [List.countP_cons_of_pos rfl, hconnect],
        by rw [List.countP_cons_of_neg Bool.false_ne_true, hclose]⟩

theorem compose_not_mem_of_isBlock {s : Script} {es : List Event} (h : IsBlock .info s es)
    (call : UploadCall) : .compose call ∉ es := by
  intro hmem
  cases h with
  | refused => simp at hmem
  | closed url format made es connect planned answered shown =>
    have hmem : .compose call ∈ es := by simpa using hmem
    have hcall : some Call.compose ∈ made.map some := by
      rw [← shown]
      exact List.mem_map.mpr ⟨_, hmem, rfl⟩
    have hinfo := planned.mem (by simpa using hcall : Call.compose ∈ made)
    simp [infoCalls] at hinfo

namespace Ordered

variable {s : Script} {es : List Event}

theorem of_info (h : IsBlock .info s es) : Ordered s es := by
  obtain ⟨url, format, rest, rfl, hrest⟩ := connects_of_isBlock h
  have hcount : (Event.connect url format :: rest).countP Event.isConnect = 1 := by
    rw [List.countP_cons_of_pos rfl, hrest]
  refine ⟨by omega, ?_, ?_⟩
  · rintro before url' format' behind heq hbefore
    rw [heq, List.countP_append, List.countP_cons_of_pos rfl] at hcount
    omega
  · rintro before call behind heq
    have hnot := compose_not_mem_of_isBlock h call
    rw [heq] at hnot
    exact absurd (by simp) hnot

theorem of_infoSession (c : Client) (h : Client.InfoAnswered s) : Ordered s c.infoSession := by
  refine of_info (.closed _ _ infoCalls _ h.connect List.prefix_rfl (fun call hcall => ?_) rfl)
  obtain ⟨method, hmethod, rfl⟩ : ∃ method ∈ Client.infoMethods, call = .request method := by
    simpa [infoCalls, Client.infoMethods] using List.dropLast_subset _ hcall
  obtain ⟨v, hv⟩ := h.answers method hmethod
  simp [Script.failure?, hv, failureIn]

theorem of_upload {s' : Script} (c : Client) (hinfo : Client.InfoAnswered s) (h : IsBlock .upload s' es) :
    Ordered s (c.infoSession ++ es) := by
  have hfirst : c.infoSession.countP Event.isConnect = 1 := rfl
  have hclosed : c.infoSession.countP Event.isClose = 1 := rfl
  obtain ⟨url, format, rest, hes, hrest⟩ := connects_of_isBlock h
  have hcount : (c.infoSession ++ es).countP Event.isConnect = 2 := by
    rw [hes, List.countP_append, hfirst, List.countP_cons_of_pos rfl, hrest]
  refine ⟨by omega, ?_, ?_⟩
  · rintro before url' format' behind heq hbefore
    rw [heq, List.countP_append, List.countP_cons_of_pos rfl] at hcount
    have hsame : c.infoSession = before := by
      rw [hes] at heq
      have hone : c.infoSession.countP Event.isConnect = before.countP Event.isConnect := by omega
      exact prefix_eq_of_countP heq rfl rfl hone
    rw [← hsame]
    exact ⟨⟨c, rfl⟩, hinfo⟩
  · rintro before call behind heq
    rcases List.append_eq_append_iff.mp heq with ⟨zs, rfl, hzs⟩ | ⟨zs, hzs, hbehind⟩
    · obtain ⟨hconnect, hclose⟩ := count_before_call (hzs ▸ h) rfl
      exact ⟨by rw [List.countP_append, hfirst, hconnect], by rw [List.countP_append, hclosed, hclose]⟩
    · cases zs with
      | nil =>
        rw [hes] at hbehind
        cases hbehind
      | cons z zs =>
        cases hbehind
        have hmem : .compose call ∈ c.infoSession := by
          rw [hzs]
          simp
        simp [Client.infoSession, Client.infoMethods] at hmem

end Ordered

variable {outer : Nat} {path : Value} {w : World} {n : Nat}

theorem fails_of_create {d : Deployer} {code payload : Value} {f : Fault}
    (h : ((d.create code payload).run w n).result = .error f) :
    f.isInterrupt = true ∨
      ∃ g, ((d.deploy code payload).run w n).result = .error g ∧ g.text = .error f := by
  rw [Deployer.create, run_handling, run_map] at h
  cases hdeploy : ((d.deploy code payload).run w n).result with
  | ok x => simp [hdeploy, Except.map] at h
  | error g =>
    cases hinterrupt : g.isInterrupt with
    | true =>
      simp only [hdeploy, Except.map, hinterrupt, if_true, Except.error.injEq] at h
      exact .inl (h ▸ hinterrupt)
    | false =>
      cases htext : g.text with
      | ok text =>
        simp [hdeploy, Except.map, hinterrupt, Deployer.logFault, run_bind, htext] at h
      | error f' =>
        have heq : f' = f := by
          simpa [hdeploy, Except.map, hinterrupt, Deployer.logFault, run_bind, htext] using h
        exact .inr ⟨g, rfl, heq ▸ htext⟩

structure Gated (outer : Nat) (path : Value) (w : World) (n : Nat) (o : Outcome (Option Deployment)) :
    Prop where
  proceeds : Proceeds outer path w n o
  prepared : (∃ e ∈ o.trace, e.isCall = true) →
    ∃ p code payload, Plan.Ready outer path w n p code payload
  ordered : Ordered (w.network.session n) o.trace
  raises : ∀ p code payload, Plan.Ready outer path w n p code payload →
    ∀ info, (asking w n p.client).result = .ok info → ∀ f, o.result = .error f →
      f.isInterrupt = true ∨ ∃ d g, Deployer.ofConfig (some p.client) p.config.toValue = .ok d ∧
        ((d.deploy (.bytes code) payload).run w (n + 1)).result = .error g ∧ g.text = .error f

theorem Gated.of_quiet {o : Outcome (Option Deployment)} (h : Proceeds outer path w n o)
    (hquiet : o.trace.filter Event.isCall = [])
    (hfails : ∀ p code payload, ¬ Plan.Ready outer path w n p code payload) :
    Gated outer path w n o where
  proceeds := h
  prepared := by
    rintro ⟨e, he, hcall⟩
    have hmem : e ∈ o.trace.filter Event.isCall := List.mem_filter.mpr ⟨he, hcall⟩
    rw [hquiet] at hmem
    cases hmem
  ordered := .of_filter (hquiet ▸ .nil)
  raises := fun p code payload hready => absurd hready (hfails p code payload)

theorem deploy_is_gated (outer : Nat) (path : Value) (w : World) (n : Nat) :
    Gated outer path w n ((deploy outer path).run w n) := by
  have hproceeds := proceeds_deploy outer path w n
  generalize (deploy outer path).run w n = o at hproceeds
  have hasks (client : Client) := (client.opens_reportNodeInfo w n).eq_nil_or_isBlock
  cases hproceeds with
  | unloaded load =>
    refine .of_quiet (.unloaded load) loading_quiet fun p _ _ hready => ?_
    cases load.symm.trans hready.config
  | unread loaded read =>
    refine .of_quiet (.unread loaded read) ?_ fun p _ _ hready => ?_
    · rw [List.filter_append, loading_quiet, reading_quiet, List.nil_append]
    · cases hready.unique loaded
      cases read.symm.trans hready.code
  | unresolved loaded read resolve =>
    refine .of_quiet (.unresolved loaded read resolve) (Plan.shown_quiet _) fun p _ _ hready => ?_
    cases hready.unique loaded
    cases resolve.symm.trans hready.payload
  | @unanswered p code payload f ready ask =>
    refine ⟨.unanswered ready ask, fun _ => ⟨p, code, payload, ready⟩, .of_filter ?_, ?_⟩
    · rw [List.filter_append, Plan.shown_quiet, List.nil_append]
      rcases hasks p.client with hnone | hblock
      · exact hnone ▸ .nil
      · exact .of_info hblock
    · intro p' code' payload' hready' info hask
      cases hready'.unique ready.toLoaded
      cases ask.symm.trans hask
  | @answered p code payload info d ready ask deployer =>
    refine ⟨.answered ready ask deployer, fun _ => ⟨p, code, payload, ready⟩, .of_filter ?_, ?_⟩
    · rw [Outcome.trace_after, List.filter_append, List.filter_append, Plan.shown_quiet, List.nil_append,
        asking, (Client.calls_of_reportNodeInfo ask).1]
      have hinfo := Client.infoAnswered_of_reportNodeInfo ask
      rcases (d.opens_create (.bytes code) payload w (n + 1)).eq_nil_or_isBlock with hnone | hblock
      · rw [hnone, List.append_nil]
        exact .of_infoSession _ hinfo
      · exact .of_upload _ hinfo hblock
    · intro p' code' payload' hready' info' hask f hf
      obtain rfl : p' = p := hready'.unique ready.toLoaded
      obtain rfl : code' = code := Except.ok.inj (hready'.code.symm.trans ready.code)
      obtain rfl : payload' = payload := Except.ok.inj (hready'.payload.symm.trans ready.payload)
      rw [Outcome.result_after] at hf
      rcases fails_of_create hf with hinterrupt | ⟨g, hg, htext⟩
      · exact .inl hinterrupt
      · exact .inr ⟨d, g, deployer, hg, htext⟩

end Run

end ProgramDeploy
