import ProgramDeploy.Proofs.DeployerSettings

namespace ProgramDeploy

def FailsWith {α : Type} (P : Fault → Prop) (x : Except Fault α) : Prop :=
  ∀ f, x = .error f → P f

namespace FailsWith

variable {α β : Type} {P : Fault → Prop}

theorem ok (x : α) : FailsWith P (.ok x) := fun _ h => nomatch h

theorem error {f : Fault} (h : P f) : FailsWith P (.error f : Except Fault α) := by
  rintro g ⟨⟩
  exact h

theorem bind {x : Except Fault α} {next : α → Except Fault β} (hx : FailsWith P x)
    (hnext : ∀ y, x = .ok y → FailsWith P (next y)) : FailsWith P (x >>= next) := by
  cases x with
  | error f => exact error (hx f rfl)
  | ok y => exact hnext y rfl

theorem mapError {ε : Type} {x : Except ε α} {f : ε → Fault} (h : ∀ e, P (f e)) :
    FailsWith P (x.mapError f) := by
  cases x with
  | error e => exact error (h e)
  | ok y => exact ok y

theorem mapM {next : α → Except Fault β} (hnext : ∀ x, FailsWith P (next x)) (xs : List α) :
    FailsWith P (xs.mapM next) := by
  induction xs with
  | nil => exact ok []
  | cons x xs ih =>
    rw [List.mapM_cons]
    exact (hnext x).bind fun _ _ => ih.bind fun _ _ => ok _

theorem foldlM {next : β → α → Except Fault β} (hnext : ∀ y x, FailsWith P (next y x)) (y : β)
    (xs : List α) : FailsWith P (xs.foldlM next y) := by
  induction xs generalizing y with
  | nil => exact ok y
  | cons x xs ih =>
    rw [List.foldlM_cons]
    exact (hnext y x).bind fun z _ => ih z

end FailsWith

inductive Value.NoBytes : Fault → Prop where
  | beyondWord : NoBytes (.beyondWord .overflow)
  | negativeCount : NoBytes .negativeCount
  | countTooLarge : NoBytes .countTooLarge
  | countUnallocatable : NoBytes .countUnallocatable
  | byteOutOfRange : NoBytes .byteOutOfRange
  | notInteger (v : Value) : NoBytes (v.misused .notInteger)
  | textWithoutEncoding : NoBytes .textWithoutEncoding
  | notBytes (v : Value) : NoBytes (v.misused .notBytes)

theorem Value.noBytes_toByte (v : Value) : FailsWith NoBytes v.toByte := by
  unfold toByte
  split
  · split
    · exact .ok _
    · exact .error .byteOutOfRange
  · exact .error (.notInteger v)

theorem Value.noBytes_zeroBytes (n : Int) : FailsWith NoBytes (zeroBytes n) := by
  unfold zeroBytes
  split
  · exact .error .beyondWord
  · split
    · exact .error .negativeCount
    · split
      · exact .error .countTooLarge
      · split
        · exact .error .countUnallocatable
        · exact .ok _

theorem Value.noBytes_toBytes (v : Value) : FailsWith NoBytes v.toBytes := by
  cases v with
  | bytes | buffer => exact .ok _
  | bool | int => exact noBytes_zeroBytes _
  | text | torn => exact .error .textWithoutEncoding
  | list | dict => exact .mapM noBytes_toByte _
  | null => exact .error (.notBytes .null)
  | float x => exact .error (.notBytes (.float x))

def Fault.initial (f : Fault) : Option Char :=
  f.text?.toOption.bind fun text => text.toList.head?

theorem Fault.initial_of_text {f : Fault} {text : String} (h : f.text = .ok text) :
    f.initial = text.toList.head? := by
  rw [initial, mapError_eq_ok_iff.mp h]
  rfl

namespace Account

inductive NoFormat : Fault → Prop where
  | badFormat : NoFormat (.address .badFormat)
  | notInteger (v : Value) : NoFormat (v.misused .notInteger)
  | uncombinable (v : Value) : NoFormat (.uncombinable "&" v.typeName "int")
  | incomparable (v : Value) : NoFormat (.incomparable "<" v.typeName "int")

theorem noFormat_formatNumber (v : Value) : FailsWith NoFormat (formatNumber v) := by
  unfold formatNumber
  split
  · split
    · exact .error .badFormat
    · split
      · exact .error (.notInteger _)
      · exact .error (.uncombinable _)
  · split
    · exact .error (.incomparable _)
    · split
      · exact .error .badFormat
      · exact .ok _

inductive Refusal (name : Value) : Fault → Prop where
  | noSecret : Refusal name .noSecret
  | unshown (f : Numeral.Fault) : Refusal name (.numeral f)
  | noFormat {f : Fault} (h : NoFormat f) : Refusal name f
  | noBytes {f : Fault} (h : Value.NoBytes f) : Refusal name f
  | notText (v : Value) : Refusal name (v.misused .notText)
  | notStripped (v : Value) : Refusal name (v.misused (.noAttribute "strip"))
  | unwritable (halves : Text.Unwritten) : Refusal name (.unwritable halves)
  | emptyMnemonic (s : String) : Refusal name (.emptyMnemonic s)
  | phrase (f : Phrase.Fault) : Refusal name (.phrase f)
  | seedNotHex {s : String} (h : name.shown = .ok s) : Refusal name (.seedNotHex s)
  | seedLength {s : String} (h : name.shown = .ok s) (n : Nat) : Refusal name (.seedLength s n)

variable (name : Value)

theorem refusal_shown : FailsWith (Refusal name) name.shown :=
  .mapError .unshown

theorem refusal_ofPublicKey (key : Bytes) (format : Value) :
    FailsWith (Refusal name) (ofPublicKey key format) := by
  have hformat : FailsWith (Refusal name) (formatNumber format) :=
    fun f hf => .noFormat (noFormat_formatNumber format f hf)
  exact hformat.bind fun _ _ => .ok _

theorem refusal_seedBytes (seed : Value) : FailsWith (Refusal name) (seedBytes seed name) := by
  unfold seedBytes
  split
  · split
    · exact .ok _
    · exact (refusal_shown name).bind fun _ hs => .error (.seedNotHex hs)
  · exact (refusal_shown name).bind fun _ hs => .error (.seedNotHex hs)
  · exact fun f hf => .noBytes (Value.noBytes_toBytes seed f hf)

theorem refusal_ofSeed (seed format : Value) : FailsWith (Refusal name) (ofSeed seed name format) := by
  refine (refusal_seedBytes name seed).bind fun bs _ => ?_
  split
  · exact refusal_ofPublicKey name _ format
  · exact (refusal_shown name).bind fun _ hs => .error (.seedLength hs _)

theorem refusal_phraseWords (mnemonic : Value) : FailsWith (Refusal name) (phraseWords mnemonic) := by
  unfold phraseWords
  split
  · exact .ok _
  · split
    · exact .ok _
    · exact .error (.unwritable _)
    · split
      · exact .ok _
      · exact .error (.notText _)
    · split
      · exact .ok _
      · exact .error (.notText _)
    · exact .error (.notStripped _)

theorem refusal_ofMnemonic (mnemonic format : Value) :
    FailsWith (Refusal name) (ofMnemonic mnemonic name format) := by
  refine (refusal_phraseWords name mnemonic).bind fun words _ => ?_
  dsimp only
  split
  · exact (refusal_shown name).bind fun _ hs => .error (.emptyMnemonic _)
  · exact (FailsWith.mapError .phrase).bind fun _ _ => refusal_ofPublicKey name _ format

theorem refusal_choose (t : Table) (format : Value) :
    FailsWith (Refusal name) (Wallet.choose (.dict t) name format) := by
  rw [Wallet.choose_eq]
  refine .bind (.ok _) fun mnemonic _ => ?_
  split
  · exact refusal_ofMnemonic name mnemonic format
  · refine .bind (.ok _) fun seed _ => ?_
    split
    · exact refusal_ofSeed name seed format
    · exact .error .noSecret

def kindOf (text : String) : Kind :=
  match text.toList with
  | [] => .memory
  | 'b' :: 'y' :: 't' :: 'e' :: ' ' :: _ => .overflow
  | 'c' :: 'a' :: 'n' :: 'n' :: 'o' :: 't' :: ' ' :: 'f' :: _ => .overflow
  | '\'' :: '<' :: _ => .type
  | '\'' :: 'u' :: 't' :: _ => .encoding
  | '\'' :: cs => if cs.getLast? = some '\'' then .attribute else .type
  | 'c' :: _ => .type
  | 's' :: _ => .type
  | 'u' :: _ => .type
  | _ => .value

def reportOf (name text : String) : Kind × Option Kind :=
  if text = "Seed for " ++ name ++ " is not valid hex" then (.value, some .value) else (kindOf text, none)

def tellsKind (f : Fault) : Bool :=
  f.cause? = none && f.text?.toOption.any fun text => text.toList.head? ≠ some 'S' && kindOf text = f.kind

def Tells (name : String) (f : Fault) : Prop :=
  ∃ text, f.text = .ok text ∧ reportOf name text = (f.kind, f.cause?)

theorem reportOf_of_head {name text : String} (h : text.toList.head? ≠ some 'S') :
    reportOf name text = (kindOf text, none) := by
  apply if_neg
  rintro rfl
  simp at h

theorem tells_of_tellsKind (name : String) {f : Fault} (h : tellsKind f = true) : Tells name f := by
  unfold tellsKind at h
  unfold Tells Fault.text
  cases htext : f.text? with
  | error e => simp [htext, Except.toOption] at h
  | ok text =>
    simp only [htext, Except.toOption, Option.any_some, Bool.and_eq_true, decide_eq_true_eq] at h
    obtain ⟨hcause, hhead, hkind⟩ := h
    exact ⟨text, rfl, by rw [reportOf_of_head hhead, hkind, hcause]⟩

theorem reportOf_of_front (name : String) {text front rest : String} (htext : text = front ++ rest)
    (hfront : front.toList.head? ∈ [some 'E', some 'I', some 'M']) :
    reportOf name text = (.value, none) := by
  have hhead {c : Char} (hc : front.toList.head? = some c) : ∃ cs, text.toList = c :: cs := by
    obtain ⟨cs, hcs⟩ := List.head?_eq_some_iff.mp hc
    exact ⟨cs ++ rest.toList, by rw [htext, String.toList_append, hcs, List.cons_append]⟩
  simp only [List.mem_cons, List.not_mem_nil, or_false] at hfront
  rcases hfront with hc | hc | hc
  all_goals
    obtain ⟨cs, hcs⟩ := hhead hc
    rw [reportOf_of_head (by simp [hcs]), kindOf, hcs]
    rfl

theorem reportOf_unwritable (name : String) (halves : Text.Unwritten) :
    reportOf name (halves.message "utf-8" "surrogates not allowed") = (.encoding, none) := by
  have hfront : ("'" ++ "utf-8" ++ "' codec can't encode character").toList =
      '\'' :: 'u' :: 't' :: "f-8' codec can't encode character".toList := by
    decide +kernel
  have htext : ∃ cs, (halves.message "utf-8" "surrogates not allowed").toList = '\'' :: 'u' :: 't' :: cs :=
    ⟨_, by rw [Text.Unwritten.message, String.toList_append, hfront]; rfl⟩
  obtain ⟨cs, hcs⟩ := htext
  rw [reportOf_of_head (by simp [hcs]), kindOf, hcs]
  rfl

theorem reportOf_seedLength (name : String) (n : Nat) :
    reportOf name ("Seed for " ++ name ++ s!" must be 32 bytes, got {n}") = (.value, none) := by
  have htail : s!" must be 32 bytes, got {n}" = " must be 32 bytes, got " ++ n.repr := rfl
  have hne : "Seed for " ++ name ++ s!" must be 32 bytes, got {n}" ≠
      "Seed for " ++ name ++ " is not valid hex" := by
    intro h
    have hlist := congrArg String.toList h
    rw [htail] at hlist
    simp at hlist
  rw [reportOf, if_neg hne, kindOf]
  simp

def typeNames : List String :=
  ["NoneType", "bool", "int", "float", "str", "bytes", "bytearray", "list", "dict"]

theorem typeName_mem (v : Value) : v.typeName ∈ typeNames := by
  cases v <;> simp [Value.typeName, typeNames]

def shownName (name : Value) : String :=
  name.shown.toOption.getD ""

theorem shownName_of_shown {s : String} (h : name.shown = .ok s) : shownName name = s := by
  rw [shownName, h]
  rfl

theorem tells_of_misuse (name : String) (v : Value) {m : Misuse}
    (h : ∀ type ∈ typeNames, tellsKind (.misuse type m) = true) : Tells name (v.misused m) :=
  tells_of_tellsKind name (h _ (typeName_mem v))

theorem tells_of_noFormat (name : String) {f : Fault} (h : NoFormat f) : Tells name f := by
  have htypes : ∀ type ∈ typeNames, tellsKind (.uncombinable "&" type "int") = true ∧
      tellsKind (.incomparable "<" type "int") = true := by
    decide +kernel
  cases h with
  | badFormat => exact tells_of_tellsKind name (by decide +kernel)
  | notInteger v => exact tells_of_misuse name v (by decide +kernel)
  | uncombinable v => exact tells_of_tellsKind name (htypes _ (typeName_mem v)).1
  | incomparable v => exact tells_of_tellsKind name (htypes _ (typeName_mem v)).2

theorem tells_of_noBytes (name : String) {f : Fault} (h : Value.NoBytes f) : Tells name f := by
  cases h with
  | notInteger v => exact tells_of_misuse name v (by decide +kernel)
  | notBytes v => exact tells_of_misuse name v (by decide +kernel)
  | _ => exact tells_of_tellsKind name (by decide +kernel)

theorem tells_of_refusal {f : Fault} (h : Refusal name f) : Tells (shownName name) f := by
  cases h with
  | noSecret => exact tells_of_tellsKind _ (by decide +kernel)
  | unshown f =>
    cases f with
    | tooLong digits =>
      exact ⟨_, rfl, reportOf_of_front _ (String.append_assoc ..) (by decide +kernel)⟩
    | _ => exact tells_of_tellsKind _ (by decide +kernel)
  | noFormat h => exact tells_of_noFormat _ h
  | noBytes h => exact tells_of_noBytes _ h
  | notText v => exact tells_of_misuse _ v (by decide +kernel)
  | notStripped v => exact tells_of_misuse _ v (by decide +kernel)
  | emptyMnemonic s =>
    exact ⟨_, rfl, reportOf_of_front _ (String.append_assoc ..) (by decide +kernel)⟩
  | phrase f => exact ⟨_, rfl, reportOf_of_front _ rfl (by decide +kernel)⟩
  | unwritable halves => exact ⟨_, rfl, reportOf_unwritable _ halves⟩
  | @seedNotHex s h =>
    rw [shownName_of_shown name h]
    exact ⟨_, rfl, if_pos rfl⟩
  | @seedLength s h n =>
    rw [shownName_of_shown name h]
    exact ⟨_, rfl, reportOf_seedLength s n⟩

theorem report_eq_of_text {f f' : Fault} (h : Refusal name f) (h' : Refusal name f')
    (htext : f.text = f'.text) : f.kind = f'.kind ∧ f.cause? = f'.cause? := by
  obtain ⟨text, ht, hreport⟩ := tells_of_refusal name h
  obtain ⟨text', ht', hreport'⟩ := tells_of_refusal name h'
  rw [ht, ht'] at htext
  cases htext
  exact Prod.mk.inj (hreport.symm.trans hreport')

def StartsOtherwise (f : Fault) : Prop :=
  f.initial ≠ some 'D' ∧ f.initial ≠ some 'M'

theorem startsOtherwise_of_text {f : Fault} {text : String} {head : Option Char}
    (htext : f.text = .ok text) (hhead : text.toList.head? = head) (hD : head ≠ some 'D')
    (hM : head ≠ some 'M') : StartsOtherwise f := by
  rw [StartsOtherwise, Fault.initial_of_text htext, hhead]
  exact ⟨hD, hM⟩

theorem head?_append {s t : String} {c : Char} (h : s.toList.head? = some c) :
    (s ++ t).toList.head? = some c := by
  rw [String.toList_append, List.head?_append, h, Option.some_or]

theorem startsOtherwise_of_noFormat {f : Fault} (h : NoFormat f) : StartsOtherwise f := by
  cases h with
  | badFormat => exact startsOtherwise_of_text rfl rfl (by decide) (by decide)
  | notInteger v =>
    exact startsOtherwise_of_text rfl (head?_append (head?_append rfl)) (by decide) (by decide)
  | uncombinable v | incomparable v =>
    apply startsOtherwise_of_text rfl
    · iterate 6 apply head?_append
      rfl
    · decide
    · decide

theorem startsOtherwise_of_noBytes {f : Fault} (h : Value.NoBytes f) : StartsOtherwise f := by
  cases h with
  | notInteger v | notBytes v =>
    exact startsOtherwise_of_text rfl (head?_append (head?_append rfl)) (by decide) (by decide)
  | _ => exact startsOtherwise_of_text rfl rfl (by decide) (by decide)

theorem startsOtherwise_phrase (f : Phrase.Fault) : StartsOtherwise (.phrase f) :=
  startsOtherwise_of_text rfl (head?_append rfl) (by decide) (by decide)

theorem startsOtherwise_of_refusal {f : Fault} (h : Refusal name f) :
    f = .noSecret ∨ (∃ s, f = .emptyMnemonic s) ∨ StartsOtherwise f := by
  cases h with
  | noSecret => exact .inl rfl
  | emptyMnemonic s => exact .inr (.inl ⟨s, rfl⟩)
  | noFormat h => exact .inr (.inr (startsOtherwise_of_noFormat h))
  | noBytes h => exact .inr (.inr (startsOtherwise_of_noBytes h))
  | unshown f =>
    refine .inr (.inr ?_)
    cases f with
    | malformed => exact startsOtherwise_of_text rfl rfl (by decide) (by decide)
    | tooLong digits =>
      exact startsOtherwise_of_text rfl (head?_append (head?_append rfl)) (by decide) (by decide)
    | unwritable => exact startsOtherwise_of_text rfl (head?_append rfl) (by decide) (by decide)
  | phrase f => exact .inr (.inr (startsOtherwise_phrase f))
  | unwritable halves =>
    exact .inr (.inr (startsOtherwise_of_text rfl (head?_append rfl) (by decide) (by decide)))
  | notStripped v =>
    apply Or.inr
    apply Or.inr
    apply startsOtherwise_of_text rfl
    · iterate 4 apply head?_append
      rfl
    · decide
    · decide
  | notText | seedNotHex | seedLength =>
    refine .inr (.inr ?_)
    exact startsOtherwise_of_text rfl (head?_append (head?_append rfl)) (by decide) (by decide)

end Account

end ProgramDeploy
