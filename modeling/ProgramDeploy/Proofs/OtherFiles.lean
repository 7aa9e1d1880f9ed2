import ProgramDeploy.Files

namespace ProgramDeploy

def Value.pathBytes? : Value → Option Bytes
  | text s => some (Text.Utf8.encode s)
  | torn t => t.nameBytes?
  | bytes bs | buffer bs => some bs
  | _ => none

namespace Files

def LeadsTo (fs : Files) (path : Value) (place : List Bytes) : Prop :=
  ∃ bs, path.pathBytes? = some bs ∧ fs.place bs = .ok (some place)

structure SameBut (fs fs' : Files) (place : List Bytes) : Prop where
  before : ∃ content, fs.entry? place = some (.file content)
  after : ∃ content, fs'.entry? place = some (.file content)
  others : ∀ names, names ≠ place → fs'.entry? names = fs.entry? names

section SameBut

variable {fs fs' : Files} {place : List Bytes} (h : fs.SameBut fs' place)

include h

theorem SameBut.walk_eq (start : Option (List Bytes)) (names : List Bytes) :
    fs'.walk start names = fs.walk start names := by
  induction names generalizing start with
  | nil => simp only [walk]
  | cons name names ih =>
    cases start with
    | none =>
      simp only [walk]
      rw [ih]
    | some here =>
      by_cases hhere : here = place
      · obtain ⟨content, hbefore⟩ := h.before
        obtain ⟨content', hafter⟩ := h.after
        simp only [walk, hhere, hbefore, hafter]
      · simp only [walk, h.others here hhere, ih]

theorem SameBut.place_eq (bs : Bytes) : fs'.place bs = fs.place bs := by
  simp only [Files.place, h.walk_eq]

theorem SameBut.lookup?_eq {bs : Bytes} (hplace : fs.place bs ≠ .ok (some place)) :
    fs'.lookup? bs = fs.lookup? bs := by
  unfold lookup?
  rw [h.place_eq]
  cases hbs : fs.place bs with
  | error problem => rfl
  | ok found =>
    cases found with
    | none => rfl
    | some names =>
      have hnames : names ≠ place := fun heq => hplace (by rw [hbs, heq])
      simp [Except.toOption, entryAt?, h.others names hnames]

theorem SameBut.contains_eq {path : Value} (hpath : ¬ fs.LeadsTo path place) :
    fs'.contains path = fs.contains path := by
  have hlookup (bs : Bytes) (hbs : path.pathBytes? = some bs) : fs'.lookup? bs = fs.lookup? bs :=
    h.lookup?_eq fun heq => hpath ⟨bs, hbs, heq⟩
  cases path with
  | text s => simp only [Files.contains, hlookup _ rfl]
  | torn t =>
    cases ht : t.nameBytes? with
    | none => simp only [Files.contains, ht, Option.bind_none]
    | some bs => simp only [Files.contains, ht, Option.bind_some, hlookup bs ht]
  | bytes bs => simp only [Files.contains, hlookup _ rfl]
  | buffer bs => simp only [Files.contains, hlookup _ rfl]
  | _ => rfl

theorem SameBut.read_eq {path : Value} (hpath : ¬ fs.LeadsTo path place) :
    fs'.read path = fs.read path := by
  have hlookup (bs : Bytes) (hbs : path.pathBytes? = some bs) : fs'.lookup? bs = fs.lookup? bs :=
    h.lookup?_eq fun heq => hpath ⟨bs, hbs, heq⟩
  cases path with
  | text s =>
    simp only [Files.read, pure_bind, hlookup _ rfl]
  | torn t =>
    cases ht : t.nameBytes? with
    | none => simp only [Files.read, ht]; rfl
    | some bs => simp only [Files.read, ht, pure_bind, hlookup bs ht]
  | bytes bs => simp only [Files.read, pure_bind, hlookup _ rfl]
  | _ => rfl

end SameBut

end Files

end ProgramDeploy
