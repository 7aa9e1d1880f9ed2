import ProgramDeploy.Account.SecretUri
import Mathlib.Data.List.TakeWhile

/-!
The language of secret URIs. A text may be split into its parts in several ways, as a piece of the phrase
may start with a slash and then is a step of the path too. All of them have one password, and a URI is
read as soon as there is any.
-/

namespace ProgramDeploy.SecretUri

structure IsRun (cs : List Char) : Prop where
  nonempty : cs ≠ []
  noSlash : '/' ∉ cs

/-- A character and a run, and then any number of times a space, a character and a run. A character that
stands before a run is no newline, but it may be a slash. -/
inductive IsPhrase : List Char → Prop where
  | first {c : Char} {run : List Char} (hc : c ≠ '\n') (hrun : IsRun run) : IsPhrase (c :: run)
  | more {phrase : List Char} {c : Char} {run : List Char} (hphrase : IsPhrase phrase) (hc : c ≠ '\n')
      (hrun : IsRun run) : IsPhrase (phrase ++ ' ' :: c :: run)

inductive IsPath : List Char → Prop where
  | nil : IsPath []
  | soft {name path : List Char} (hname : IsRun name) (hpath : IsPath path) :
      IsPath ('/' :: (name ++ path))
  | hard {name path : List Char} (hname : IsRun name) (hpath : IsPath path) :
      IsPath ('/' :: '/' :: (name ++ path))

inductive IsEnd : List Char → List Char → Prop where
  | bare : IsEnd [] []
  | newline : IsEnd ['\n'] []
  | password {password : List Char} (hline : '\n' ∉ password) :
      IsEnd ('/' :: '/' :: '/' :: password) password
  | passwordLine {password : List Char} (hline : '\n' ∉ password) :
      IsEnd ('/' :: '/' :: '/' :: (password ++ ['\n'])) password

inductive Matches : List Char → List Char → Prop where
  | parts {phrase path tail password : List Char} (hphrase : IsPhrase phrase) (hpath : IsPath path)
      (htail : IsEnd tail password) : Matches (phrase ++ path ++ tail) password

def completed : List Char → List Char
  | '/' :: cs => developmentPhrase ++ '/' :: cs
  | cs => cs

theorem parse?_eq (cs : List Char) : parse? cs = parseFull? (completed cs) := by
  unfold parse?
  split
  · rfl
  · rename_i hslash
    rw [completed]
    exact hslash

section Runs

variable {cs rest run : List Char}

theorem untilSlash_append_drop (cs : List Char) :
    untilSlash cs ++ cs.drop (untilSlash cs).length = cs := by
  obtain ⟨rest, hrest⟩ := List.takeWhile_prefix (· != '/') (l := cs)
  calc untilSlash cs ++ cs.drop (untilSlash cs).length
      = untilSlash cs ++ (untilSlash cs ++ rest).drop (untilSlash cs).length := by
        rw [untilSlash, hrest]
    _ = cs := by rw [List.drop_left]; exact hrest

theorem isRun_untilSlash (h : (untilSlash cs).isEmpty = false) : IsRun (untilSlash cs) where
  nonempty := List.isEmpty_eq_false_iff.mp h
  noSlash := fun hslash => by simpa using List.mem_takeWhile_imp hslash

def EndsRun (rest : List Char) : Prop :=
  ∀ c ∈ rest.head?, c = '/'

theorem untilSlash_append (hrun : '/' ∉ run) (hrest : EndsRun rest) : untilSlash (run ++ rest) = run := by
  have hnext : untilSlash rest = [] := by
    cases rest with
    | nil => rfl
    | cons c rest =>
      rw [hrest c rfl]
      rfl
  have hall : ∀ c ∈ run, (c != '/') = true := by
    intro c hc
    simp only [bne_iff_ne]
    rintro rfl
    exact hrun hc
  rw [untilSlash, List.takeWhile_append_of_pos hall]
  exact (congrArg (run ++ ·) hnext).trans (List.append_nil run)

theorem IsRun.append (h : IsRun run) (hrest : '/' ∉ rest) : IsRun (run ++ rest) where
  nonempty := List.append_ne_nil_of_left_ne_nil h.nonempty rest
  noSlash := by simpa using ⟨h.noSlash, hrest⟩

theorem IsRun.isEmpty (h : IsRun run) : run.isEmpty = false :=
  List.isEmpty_eq_false_iff.mpr h.nonempty

end Runs

section Sound

variable {cs rest : List Char} {s : Bool × List Char}

theorem exists_name_of_step? (h : step? cs = some (s, rest)) :
    ∃ name, IsRun name ∧ (cs = '/' :: '/' :: (name ++ rest) ∨ cs = '/' :: (name ++ rest)) := by
  have hname {tail : List Char} {hard : Bool}
      (h : (if (untilSlash tail).isEmpty then none
        else some ((hard, untilSlash tail), tail.drop (untilSlash tail).length)) = some (s, rest)) :
      ∃ name, IsRun name ∧ tail = name ++ rest := by
    split at h
    · cases h
    · rename_i hempty
      cases h
      exact ⟨_, isRun_untilSlash (Bool.eq_false_iff.mpr hempty), (untilSlash_append_drop tail).symm⟩
  unfold step? at h
  split at h
  · obtain ⟨name, hrun, rfl⟩ := hname h
    exact ⟨name, hrun, .inl rfl⟩
  · obtain ⟨name, hrun, rfl⟩ := hname h
    exact ⟨name, hrun, .inr rfl⟩
  · cases h

theorem exists_path_of_spanSteps (cs : List Char) : ∃ path, IsPath path ∧ cs = path ++ (spanSteps cs).2 := by
  fun_induction spanSteps cs with
  | case1 cs => exact ⟨[], .nil, rfl⟩
  | case2 cs s rest hstep steps rest' hspan ih =>
    obtain ⟨path, hpath, hrest⟩ := ih
    rw [hspan] at hrest
    obtain ⟨name, hname, rfl | rfl⟩ := exists_name_of_step? hstep
    · exact ⟨_, .hard hname hpath, by simp [hrest]⟩
    · exact ⟨_, .soft hname hpath, by simp [hrest]⟩

theorem isEnd_of_password? {password : List Char} (h : password? cs = some password) :
    IsEnd cs password := by
  unfold password? at h
  split at h
  · cases h
    exact .bare
  · rename_i cs
    have hline : '\n' ∉ cs.takeWhile (· != '\n') := fun hmem => by
      simpa using List.mem_takeWhile_imp hmem
    have hsplit := cs.takeWhile_append_dropWhile (p := (· != '\n'))
    split at h
    · rename_i hrest
      cases h
      rw [hrest, List.append_nil] at hsplit
      have hend := IsEnd.password hline
      rwa [hsplit] at hend ⊢
    · rename_i hrest
      cases h
      have hend := IsEnd.passwordLine hline
      rw [hrest] at hsplit
      rwa [hsplit] at hend
    · cases h
  · cases h

theorem matches_of_parseFull? {u : SecretUri} (h : parseFull? cs = some u) : Matches cs u.password := by
  unfold parseFull? at h
  split at h
  · cases h
  · cases h
  · rename_i c cs hc
    dsimp only at h
    split at h
    · cases h
    · rename_i hempty
      obtain ⟨password, hpassword, rfl⟩ := Option.map_eq_some_iff.mp h
      obtain ⟨path, hpath, hrest⟩ := exists_path_of_spanSteps (cs.drop (untilSlash cs).length)
      have hphrase : IsPhrase (c :: untilSlash cs) :=
        .first hc (isRun_untilSlash (Bool.eq_false_iff.mpr hempty))
      have hmatches := Matches.parts hphrase hpath (isEnd_of_password? hpassword)
      rwa [List.append_assoc, ← hrest, List.cons_append, untilSlash_append_drop] at hmatches

end Sound

section Complete

variable {stem path tail rest password : List Char}

theorem IsPath.append (h : IsPath path) (hrest : IsPath rest) : IsPath (path ++ rest) := by
  induction h with
  | nil => exact hrest
  | soft hname _ ih =>
    rw [List.cons_append, List.append_assoc]
    exact .soft hname ih
  | hard hname _ ih =>
    rw [List.cons_append, List.cons_append, List.append_assoc]
    exact .hard hname ih

theorem IsPath.append_text (h : IsPath path) (hne : path ≠ []) (hrest : '/' ∉ rest) :
    IsPath (path ++ rest) := by
  have hmore {name path : List Char} (hname : IsRun name) (hpath : IsPath path)
      (ih : path ≠ [] → IsPath (path ++ rest)) :
      ∃ name' path', IsRun name' ∧ IsPath path' ∧ name ++ path ++ rest = name' ++ path' := by
    by_cases hend : path = []
    · exact ⟨name ++ rest, [], hname.append hrest, .nil, by simp [hend]⟩
    · exact ⟨name, path ++ rest, hname, ih hend, List.append_assoc ..⟩
  induction h with
  | nil => exact absurd rfl hne
  | soft hname hpath ih =>
    obtain ⟨name', path', hname', hpath', heq⟩ := hmore hname hpath ih
    rw [List.cons_append, heq]
    exact .soft hname' hpath'
  | hard hname hpath ih =>
    obtain ⟨name', path', hname', hpath', heq⟩ := hmore hname hpath ih
    rw [List.cons_append, List.cons_append, heq]
    exact .hard hname' hpath'

inductive IsStem : List Char → Prop where
  | parts {c : Char} {run path : List Char} (hc : c ≠ '\n') (hrun : IsRun run) (hpath : IsPath path) :
      IsStem (c :: run ++ path)

theorem IsStem.append_path (h : IsStem stem) (hpath : IsPath path) : IsStem (stem ++ path) := by
  cases h with
  | parts hc hrun hfront =>
    rw [List.append_assoc]
    exact .parts hc hrun (hfront.append hpath)

theorem IsStem.append_text (h : IsStem stem) (hrest : '/' ∉ rest) : IsStem (stem ++ rest) := by
  cases h with
  | @parts c run path hc hrun hpath =>
    by_cases hend : path = []
    · have hstem := IsStem.parts hc (hrun.append hrest) .nil
      simpa [hend] using hstem
    · rw [List.append_assoc]
      exact .parts hc hrun (hpath.append_text hend hrest)

theorem IsPhrase.isStem (h : IsPhrase stem) : IsStem stem := by
  induction h with
  | @first c run hc hrun =>
    have hstem := IsStem.parts hc hrun .nil
    rwa [List.append_nil] at hstem
  | @more phrase c run _ _ hrun ih =>
    by_cases hslash : c = '/'
    -- The piece is read as a step, and its space as the end of what stands before.
    · have hstep : IsPath ('/' :: (run ++ [])) := .soft hrun .nil
      have hspace : '/' ∉ [' '] := by decide
      have hstem := (ih.append_text hspace).append_path hstep
      simpa [hslash] using hstem
    · refine ih.append_text ?_
      simp [hrun.noSlash, Ne.symm hslash]

theorem step?_soft {name : List Char} (hname : IsRun name) (hrest : EndsRun rest) :
    step? ('/' :: (name ++ rest)) = some ((false, name), rest) := by
  have hrun := untilSlash_append hname.noSlash hrest
  unfold step?
  split
  · rename_i cs heq
    have hhead : (name ++ rest).head? = some '/' := by
      rw [(List.cons.inj heq).2]
      rfl
    obtain ⟨c, cs', rfl⟩ := List.exists_cons_of_ne_nil hname.nonempty
    cases hhead
    exact absurd (List.mem_cons_self ..) hname.noSlash
  · rename_i heq
    obtain ⟨-, rfl⟩ := List.cons.inj heq
    dsimp only
    rw [hrun, hname.isEmpty, List.drop_left]
    rfl
  · rename_i hno
    exact absurd rfl (hno _)

theorem step?_hard {name : List Char} (hname : IsRun name) (hrest : EndsRun rest) :
    step? ('/' :: '/' :: (name ++ rest)) = some ((true, name), rest) := by
  have hrun := untilSlash_append hname.noSlash hrest
  simp only [step?, hrun, hname.isEmpty, List.drop_left]
  rfl

theorem step?_of_password? (h : password? tail = some password) : step? tail = none := by
  unfold password? at h
  split at h
  · rfl
  · rfl
  · cases h

theorem endsRun_of_password? (h : password? tail = some password) : EndsRun tail := by
  unfold password? at h
  split at h
  · simp [EndsRun]
  · simp [EndsRun]
  · cases h

theorem IsPath.endsRun (h : IsPath path) (htail : EndsRun tail) : EndsRun (path ++ tail) := by
  cases h with
  | nil => exact htail
  | soft | hard => simp [EndsRun]

theorem spanSteps_of_step? {s : Bool × List Char} {cs : List Char} (h : step? cs = some (s, rest)) :
    spanSteps cs = (s :: (spanSteps rest).1, (spanSteps rest).2) := by
  rw [spanSteps]
  split
  · rename_i hnone
    rw [h] at hnone
    cases hnone
  · rename_i hsome
    rw [h] at hsome
    cases hsome
    rfl

theorem spanSteps_of_none {cs : List Char} (h : step? cs = none) : spanSteps cs = ([], cs) := by
  rw [spanSteps]
  split
  · rfl
  · rename_i hsome
    rw [h] at hsome
    cases hsome

theorem spanSteps_append (h : IsPath path) (htail : password? tail = some password) :
    (spanSteps (path ++ tail)).2 = tail := by
  -- Behind each name stands a slash or nothing, so that the name is read to its end.
  have hends := endsRun_of_password? htail
  induction h with
  | nil => rw [List.nil_append, spanSteps_of_none (step?_of_password? htail)]
  | soft hname hpath ih =>
    rw [List.cons_append, List.append_assoc, spanSteps_of_step? (step?_soft hname (hpath.endsRun hends))]
    exact ih
  | hard hname hpath ih =>
    rw [List.cons_append, List.cons_append, List.append_assoc,
      spanSteps_of_step? (step?_hard hname (hpath.endsRun hends))]
    exact ih

theorem exists_parseFull?_append (h : IsStem stem) (htail : password? tail = some password) :
    ∃ u, parseFull? (stem ++ tail) = some u ∧ u.password = password := by
  cases h with
  | @parts c run path hc hrun hpath =>
    have hbody : untilSlash (run ++ (path ++ tail)) = run :=
      untilSlash_append hrun.noSlash (hpath.endsRun (endsRun_of_password? htail))
    rw [List.append_assoc, List.cons_append]
    unfold parseFull?
    split
    · rename_i heq
      cases heq
    · rename_i heq
      exact absurd (List.cons.inj heq).1 hc
    · rename_i heq
      obtain ⟨rfl, rfl⟩ := List.cons.inj heq
      dsimp only
      rw [hbody, hrun.isEmpty, List.drop_left, spanSteps_append hpath htail, htail]
      exact ⟨_, rfl, rfl⟩

theorem password?_line (hline : '\n' ∉ password) (hrest : rest = [] ∨ rest = ['\n']) :
    password? ('/' :: '/' :: '/' :: (password ++ rest)) = some password := by
  have hall : ∀ c ∈ password, (c != '\n') = true := by
    intro c hc
    simp only [bne_iff_ne]
    rintro rfl
    exact hline hc
  simp only [password?]
  rw [List.dropWhile_append_of_pos hall, List.takeWhile_append_of_pos hall]
  rcases hrest with rfl | rfl <;> simp

theorem exists_stem_of_matches {cs : List Char} (h : Matches cs password) :
    ∃ stem tail, IsStem stem ∧ password? tail = some password ∧ cs = stem ++ tail := by
  cases h with
  | parts hphrase hpath htail =>
    have hstem := hphrase.isStem.append_path hpath
    cases htail with
    | bare => exact ⟨_, [], hstem, rfl, rfl⟩
    -- Without a password, the last newline is read as one more character of the last name.
    | newline => exact ⟨_, [], hstem.append_text (by decide), rfl, (List.append_nil _).symm⟩
    | password hline =>
      have hread := password?_line hline (.inl rfl)
      rw [List.append_nil] at hread
      exact ⟨_, _, hstem, hread, rfl⟩
    | passwordLine hline => exact ⟨_, _, hstem, password?_line hline (.inr rfl), rfl⟩

end Complete

theorem exists_parseFull?_iff {cs password : List Char} :
    (∃ u, parseFull? cs = some u ∧ u.password = password) ↔ Matches cs password := by
  constructor
  · rintro ⟨u, hu, rfl⟩
    exact matches_of_parseFull? hu
  · intro h
    obtain ⟨stem, tail, hstem, htail, rfl⟩ := exists_stem_of_matches h
    exact exists_parseFull?_append hstem htail

theorem Matches.password_eq {cs p q : List Char} (hp : Matches cs p) (hq : Matches cs q) : p = q := by
  obtain ⟨u, hu, rfl⟩ := exists_parseFull?_iff.mpr hp
  obtain ⟨v, hv, rfl⟩ := exists_parseFull?_iff.mpr hq
  rw [hu] at hv
  cases hv
  rfl

theorem exists_parse?_iff {cs password : List Char} :
    (∃ u, parse? cs = some u ∧ u.password = password) ↔ Matches (completed cs) password := by
  rw [parse?_eq, exists_parseFull?_iff]

theorem parse?_eq_none_iff {cs : List Char} :
    parse? cs = none ↔ ∀ password, ¬ Matches (completed cs) password := by
  simp only [← exists_parse?_iff, not_exists, not_and]
  rw [Option.eq_none_iff_forall_ne_some]
  exact ⟨fun h _ u hu => absurd hu (h u), fun h u hu => h _ u hu rfl⟩

end ProgramDeploy.SecretUri
