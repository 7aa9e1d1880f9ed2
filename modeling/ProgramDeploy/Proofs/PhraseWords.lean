import Mathlib.Data.List.TakeWhile
import ProgramDeploy.Proofs.AccountReports
import ProgramDeploy.Proofs.SecretIsolation

namespace ProgramDeploy

namespace Text

/-- The text consists of these words, in which no member of the class stands, and of members of the class
before, between and behind them. -/
inductive HasWords {α : Type} (p : α → Bool) : List α → List (List α) → Prop where
  | nil : HasWords p [] []
  | gap {c : α} {cs : List α} {ws : List (List α)} (hc : p c = true) (hcs : HasWords p cs ws) :
      HasWords p (c :: cs) ws
  | word {w cs : List α} {ws : List (List α)} (hne : w ≠ []) (hw : ∀ c ∈ w, p c = false)
      (hend : ∀ c ∈ cs.head?, p c = true) (hcs : HasWords p cs ws) : HasWords p (w ++ cs) (w :: ws)

variable {α β : Type} {p : α → Bool} {c : α} {w cs : List α} {ws : List (List α)}

theorem words_cons_of_pos (hc : p c = true) : words p (c :: cs) = words p cs := by
  simp [words, pieces, hc]

theorem head?_pieces (h : ∀ c ∈ cs.head?, p c = true) : (pieces p cs).head? = some [] := by
  cases cs with
  | nil => rfl
  | cons c cs => simp [pieces, h c rfl]

theorem pieces_append (hw : ∀ c ∈ w, p c = false) {v : List α} {vs : List (List α)}
    (hcs : pieces p cs = v :: vs) : pieces p (w ++ cs) = (w ++ v) :: vs := by
  induction w with
  | nil => exact hcs
  | cons c w ih =>
    obtain ⟨hc, hw⟩ := List.forall_mem_cons.mp hw
    simp [pieces, hc, ih hw]

theorem words_append (hne : w ≠ []) (hw : ∀ c ∈ w, p c = false) (hend : ∀ c ∈ cs.head?, p c = true) :
    words p (w ++ cs) = w :: words p cs := by
  obtain ⟨vs, hvs⟩ := List.head?_eq_some_iff.mp (head?_pieces hend)
  rw [words, words, pieces_append hw hvs, hvs]
  simp [hne]

theorem hasWords_words (p : α → Bool) (cs : List α) : HasWords p cs (words p cs) := by
  -- By the length: a blank is passed over alone, and a word as a whole.
  induction hlength : cs.length using Nat.strongRecOn generalizing cs with
  | ind n ih =>
    subst hlength
    match cs with
    | [] => exact .nil
    | c :: cs =>
      by_cases hc : p c = true
      · rw [words_cons_of_pos hc]
        exact .gap hc (ih _ (by simp) cs rfl)
      · let w := (c :: cs).takeWhile fun c => !p c
        let rest := (c :: cs).dropWhile fun c => !p c
        have hsplit : w ++ rest = c :: cs := List.takeWhile_append_dropWhile
        have hhead : w = c :: cs.takeWhile fun c => !p c := by simp [w, hc]
        have hne : w ≠ [] := by simp [hhead]
        have hw : ∀ c ∈ w, p c = false := fun c hc => by simpa using List.mem_takeWhile_imp hc
        have hend : ∀ c ∈ rest.head?, p c = true := by
          intro d hd
          have hstop := List.head?_dropWhile_not (fun c => !p c) (c :: cs)
          rw [Option.mem_def.mp hd] at hstop
          simpa using hstop
        have hlt : rest.length < (c :: cs).length := by
          have hsum := congrArg List.length hsplit
          rw [hhead] at hsum
          simp only [List.length_append, List.length_cons] at hsum ⊢
          omega
        rw [← hsplit, words_append hne hw hend]
        exact .word hne hw hend (ih _ hlt rest rfl)

theorem words_of_hasWords (h : HasWords p cs ws) : words p cs = ws := by
  induction h with
  | nil => rfl
  | gap hc hcs ih => rw [words_cons_of_pos hc, ih]
  | word hne hw hend hcs ih => rw [words_append hne hw hend, ih]

theorem words_eq_iff : words p cs = ws ↔ HasWords p cs ws := by
  constructor
  · rintro rfl
    exact hasWords_words p cs
  · exact words_of_hasWords

theorem hasWords_nil_iff : HasWords p cs [] ↔ ∀ c ∈ cs, p c = true := by
  constructor
  · intro h
    generalize hws : ([] : List (List α)) = ws at h
    induction h with
    | nil => simp
    | gap hc hcs ih => exact List.forall_mem_cons.mpr ⟨hc, ih hws⟩
    | word => cases hws
  · intro h
    induction cs with
    | nil => exact .nil
    | cons c cs ih =>
      obtain ⟨hc, hcs⟩ := List.forall_mem_cons.mp h
      exact .gap hc (ih hcs)

theorem trim_eq_nil_iff : trim p cs = [] ↔ HasWords p cs [] := by
  rw [hasWords_nil_iff, trim, trimRight, List.reverse_eq_nil_iff, List.dropWhile_eq_nil_iff]
  simp only [List.mem_reverse]
  constructor
  · intro h c hc
    by_cases hd : c ∈ cs.dropWhile p
    · exact h c hd
    · rw [← List.takeWhile_append_dropWhile (p := p) (l := cs), List.mem_append] at hc
      exact List.mem_takeWhile_imp (hc.resolve_right hd)
  · exact fun h c hc => h c ((List.dropWhile_suffix p).subset hc)

theorem HasWords.exists_mem (h : HasWords p cs ws) (hc : c ∈ cs) (hp : p c = false) : ∃ w ∈ ws, c ∈ w := by
  induction h with
  | nil => cases hc
  | gap hblank hcs ih =>
    rcases List.mem_cons.mp hc with rfl | hc
    · simp [hblank] at hp
    · exact ih hc
  | word hne hw hend hcs ih =>
    rcases List.mem_append.mp hc with hc | hc
    · exact ⟨_, List.mem_cons_self, hc⟩
    · obtain ⟨w, hw, hcw⟩ := ih hc
      exact ⟨w, List.mem_cons_of_mem _ hw, hcw⟩

theorem pieces_map (f : β → α) (bs : List β) :
    pieces p (bs.map f) = (pieces (p ∘ f) bs).map (List.map f) := by
  induction bs with
  | nil => rfl
  | cons b bs ih =>
    simp only [List.map_cons, pieces, Function.comp_apply, ih]
    split
    · rfl
    · cases pieces (p ∘ f) bs <;> rfl

theorem words_map (f : β → α) (bs : List β) : words p (bs.map f) = (words (p ∘ f) bs).map (List.map f) := by
  rw [words, words, pieces_map, List.filter_map]
  congr 2
  funext w
  simp

def Point.blank (p : Point) : Bool :=
  Text.blank p.toChar

end Text

inductive Value.IsText : Value → List Text.Point → Prop where
  | text (s : String) : IsText (.text s) (s.toList.map .char)
  | torn (t : Text.Torn) : IsText (.torn t) t.points

theorem Value.IsText.isTruthy_iff {v : Value} {ps : List Text.Point} (h : v.IsText ps) :
    v.isTruthy = true ↔ ps ≠ [] := by
  cases h with
  | text s => simp [isTruthy]
  | torn t =>
    have hne : t.points ≠ [] := fun hnil => by simpa [hnil] using t.torn
    simp [isTruthy, hne]

def Outcome.FindsNoWords {α : Type} (label : String) (o : Outcome α) : Prop :=
  ∃ f, o.result = .error f ∧ o.trace = [] ∧ f.kind = .value ∧ f.cause? = none ∧
    f.text = .ok ("Mnemonic for " ++ label ++ " is empty")

namespace Account

variable {v : Value} {ps : List Text.Point} {ws : List (List Text.Point)} (name format : Value)

def writtenWords (ws : List (List Text.Point)) : Except Fault (List (List Char)) :=
  if ws.any (·.any Text.Point.isHalf) then .error (.unwritable (.halves ([.char ' '].intercalate ws)))
  else .ok (ws.map (·.map Text.Point.toChar))

theorem writtenWords_chars (ws : List (List Char)) : writtenWords (ws.map (·.map .char)) = .ok ws := by
  have hwhole : (ws.map (·.map Text.Point.char)).any (·.any Text.Point.isHalf) = false := by
    simp [Text.Point.isHalf]
  have hback : ((·.map Text.Point.toChar) ∘ (·.map Text.Point.char) : List Char → List Char) = id := by
    funext w
    simp [Function.comp_def, Text.Point.toChar]
  rw [writtenWords, hwhole, if_neg Bool.false_ne_true, List.map_map, hback, List.map_id]

theorem phraseWords_of_hasWords (hv : v.IsText ps) (hps : Text.HasWords Text.Point.blank ps ws) :
    phraseWords v = writtenWords ws := by
  have hwords := Text.words_of_hasWords hps
  cases hv with
  | text s =>
    rw [Text.words_map] at hwords
    rw [← hwords, writtenWords_chars]
    unfold phraseWords
    split
    · rename_i hempty
      have hs : s = "" := by simpa [Value.isTruthy] using hempty
      rw [hs]
      rfl
    · rfl
  | torn t =>
    obtain ⟨p, hp, hhalf⟩ := List.any_eq_true.mp t.torn
    have hblank : p.blank = false := by
      cases p with
      | char => cases hhalf
      | half => exact (by decide : Text.blank '\ufffd' = false)
    obtain ⟨w, hw, hpw⟩ := hps.exists_mem hp hblank
    have hany : ws.any (·.any Text.Point.isHalf) = true :=
      List.any_eq_true.mpr ⟨w, hw, List.any_eq_true.mpr ⟨p, hpw, hhalf⟩⟩
    rw [writtenWords, if_pos hany, ← hwords]
    rfl

theorem ofMnemonic_of_hasWords (hv : v.IsText ps) (hps : Text.HasWords Text.Point.blank ps ws) :
    ofMnemonic v name format = (do
      let words ← writtenWords ws
      if words.isEmpty then throw (.emptyMnemonic (← name.shown))
      let entropy ← (Phrase.entropy (Phrase.ofWords words)).mapError .phrase
      ofPublicKey (Secret.ofEntropy entropy).publicKey format) := by
  rw [ofMnemonic, phraseWords_of_hasWords hv hps]

theorem ofMnemonic_of_no_words (hv : v.IsText ps) (hps : Text.HasWords Text.Point.blank ps []) {label : String}
    (hname : name.shown = .ok label) : ofMnemonic v name format = .error (.emptyMnemonic label) := by
  rw [ofMnemonic_of_hasWords name format hv hps, hname]
  rfl

theorem startsOtherwise_ofMnemonic (hv : v.IsText ps) (hps : Text.HasWords Text.Point.blank ps ws)
    (hne : ws ≠ []) : FailsWith StartsOtherwise (ofMnemonic v name format) := by
  have hkey (key : Bytes) : FailsWith StartsOtherwise (ofPublicKey key format) := by
    refine FailsWith.bind (fun f hf => ?_) fun _ _ => .ok _
    exact startsOtherwise_of_noFormat (noFormat_formatNumber format f hf)
  have hwritten : FailsWith StartsOtherwise (writtenWords ws) := by
    unfold writtenWords
    split
    · exact .error (startsOtherwise_of_text rfl (head?_append rfl) (by decide) (by decide))
    · exact .ok _
  rw [ofMnemonic_of_hasWords name format hv hps]
  refine hwritten.bind fun words hwords => ?_
  have hsome : words.isEmpty = false := by
    unfold writtenWords at hwords
    split at hwords <;> cases hwords
    simpa using hne
  rw [hsome, if_neg Bool.false_ne_true]
  exact (FailsWith.mapError startsOtherwise_phrase).bind fun _ _ => hkey _

end Account

namespace Wallet

variable {v v' : Value} {ps ps' : List Text.Point} {ws : List (List Text.Point)} {config config' : Value}
  (name format : Value) (w : World) (n : Nat)

def HasPhrase (config v : Value) : Prop :=
  ∃ account, config.field "account" = .ok account ∧ account.field "mnemonic" = .ok v

theorem finds_no_words_iff (hv : v.IsText ps) (hps : Text.HasWords Text.Point.blank ps ws) {label : String}
    (hname : name.shown = .ok label) :
    ((fromMnemonic v name format).run w n).FindsNoWords label ↔ ws = [] := by
  constructor
  · rintro ⟨f, hresult, -, -, -, htext⟩
    by_contra hne
    have hinitial : f.initial = some 'M' := by
      rw [Fault.initial_of_text htext]
      simp
    cases hmade : Account.ofMnemonic v name format with
    | ok a =>
      rw [fromMnemonic, run_report_of_ok w n hmade hname] at hresult
      cases hresult
    | error g =>
      rw [fromMnemonic, run_report_of_error w n hmade] at hresult
      cases hresult
      exact (Account.startsOtherwise_ofMnemonic name format hv hps hne f hmade).2 hinitial
  · rintro rfl
    have hmade := Account.ofMnemonic_of_no_words name format hv hps hname
    rw [fromMnemonic, run_report_of_error w n hmade]
    exact ⟨_, rfl, rfl, rfl, rfl, rfl⟩

theorem derive_eq_of_words (h : config.EqualButIn "account" ["mnemonic", "seed"] config')
    (hmade : ∀ name format, Account.ofMnemonic v name format = Account.ofMnemonic v' name format)
    (htruthy : v.isTruthy = true) (htruthy' : v'.isTruthy = true) (hphrase : HasPhrase config v)
    (hphrase' : HasPhrase config' v') : derive config = derive config' := by
  have hnode : config.field "node" = config'.field "node" := h.field (by decide)
  obtain ⟨account, haccount, hmnemonic⟩ := hphrase
  obtain ⟨account', haccount', hmnemonic'⟩ := hphrase'
  unfold derive
  rw [hnode]
  obtain heq | ⟨t, t', ht, ht', hsame⟩ := h.field_key
  · rw [heq]
  · have hname : (Value.dict t).field "name" = (Value.dict t').field "name" := hsame.field (by decide)
    have hok {β : Type} (x : Value) (next : Value → Except Fault β) : (.ok x >>= next) = next x := rfl
    rw [ht] at haccount
    rw [ht'] at haccount'
    cases haccount
    cases haccount'
    have hchoose (name format : Value) :
        choose (.dict t) name format = choose (.dict t') name format := by
      rw [choose_of_phrase hmnemonic htruthy, choose_of_phrase hmnemonic' htruthy', hmade]
    simp only [ht, ht', hok, hname, hchoose]

/-- Phrases with the same words make the same account, or none for the same reason, alone and as the phrase
of a configuration; and the reason is that there are no words only where there are none. -/
theorem phrases_count_by_their_words (hv : v.IsText ps) (hv' : v'.IsText ps')
    (hps : Text.HasWords Text.Point.blank ps ws) (hps' : Text.HasWords Text.Point.blank ps' ws) :
    (fromMnemonic v name format).run w n = (fromMnemonic v' name format).run w n ∧
      (∀ label, name.shown = .ok label →
        (((fromMnemonic v name format).run w n).FindsNoWords label ↔ ws = [])) ∧
      (ws = [] ↔ Text.trim Text.Point.blank ps = []) ∧
      (ps ≠ [] → ps' ≠ [] → ∀ config config', config.EqualButIn "account" ["mnemonic", "seed"] config' →
        HasPhrase config v → HasPhrase config' v' →
          (deployer config).run w n = (deployer config').run w n ∧
            (Labelled config name format →
              (deployer config).run w n = (fromMnemonic v name format).run w n)) := by
  have hmade (name format : Value) : Account.ofMnemonic v name format = Account.ofMnemonic v' name format := by
    rw [Account.ofMnemonic_of_hasWords name format hv hps, Account.ofMnemonic_of_hasWords name format hv' hps']
  refine ⟨?_, fun label hname => finds_no_words_iff name format w n hv hps hname, ?_, ?_⟩
  · rw [fromMnemonic, fromMnemonic, hmade]
  · rw [Text.trim_eq_nil_iff]
    constructor
    · rintro rfl
      exact hps
    · intro hnone
      rw [← Text.words_of_hasWords hps, Text.words_of_hasWords hnone]
  · intro hne hne' config config' h hphrase hphrase'
    have htruthy := hv.isTruthy_iff.mpr hne
    constructor
    · rw [run_deployer, run_deployer,
        derive_eq_of_words h hmade htruthy (hv'.isTruthy_iff.mpr hne') hphrase hphrase']
    · rintro ⟨account, node, haccount, hnode, hformat, hname⟩
      obtain ⟨account', haccount', hmnemonic⟩ := hphrase
      rw [haccount] at haccount'
      cases haccount'
      rw [run_deployer_of_found w n haccount hnode hformat hname, choose_of_phrase hmnemonic htruthy, fromMnemonic]

theorem phrases_count_by_their_words_untidy :
    let tidy := "fit walk"
    let untidy := "\u00a0 fit\n\u3000\x1cwalk\t"
    let ws := [[.char 'f', .char 'i', .char 't'], [.char 'w', .char 'a', .char 'l', .char 'k']]
    let w : World := ⟨.empty, .empty, [7], []⟩
    Text.HasWords Text.Point.blank (untidy.toList.map .char) ws ∧
      Text.HasWords Text.Point.blank (tidy.toList.map .char) ws ∧
      (fromMnemonic (.text untidy) (.text "Anme") (.int 137)).run w 0 =
        (fromMnemonic (.text tidy) (.text "Anme") (.int 137)).run w 0 ∧
      (deployer (Console.secretly [("mnemonic", .text untidy)])).run w 0 =
        (deployer (Console.secretly [("mnemonic", .text tidy), ("seed", .text "0x")])).run w 0 := by
  intro tidy untidy ws w
  have huntidy : Text.HasWords Text.Point.blank (untidy.toList.map .char) ws :=
    Text.words_eq_iff.mp (by decide +kernel)
  have htidy : Text.HasWords Text.Point.blank (tidy.toList.map .char) ws :=
    Text.words_eq_iff.mp (by decide +kernel)
  obtain ⟨hsame, -, -, hdeployer⟩ :=
    phrases_count_by_their_words (.text "Anme") (.int 137) w 0 (.text untidy) (.text tidy) huntidy htidy
  have hbut : (Console.secretly [("mnemonic", .text untidy)]).EqualButIn "account" ["mnemonic", "seed"]
      (Console.secretly [("mnemonic", .text tidy), ("seed", .text "0x")]) :=
    Console.equalButIn_secretly fun name hname => by
      simp only [List.mem_cons, not_or] at hname
      simp [Table.get?_cons (.text name), Ne.symm hname.1, Ne.symm hname.2.1]
  have hrun := hdeployer (by decide) (by decide) _ _ hbut ⟨_, rfl, rfl⟩ ⟨_, rfl, rfl⟩
  exact ⟨huntidy, htidy, hsame, hrun.1⟩

end Wallet

end ProgramDeploy
