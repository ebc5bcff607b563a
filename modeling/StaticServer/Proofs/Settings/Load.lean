import Mathlib.Logic.Function.Defs
import StaticServer.Settings.Load
import StaticServer.Settings.Record

/-!
# Settings from selected values

Each field makes something of the value that is selected for it, or has its default without one
(`Field.result`). Loading gives settings exactly if every field can do that, and else what is wrong
with each field that cannot, in the order of their declaration (`Settings.load_cases`).
-/

namespace StaticServer

namespace Field

/-! ### What a field makes of its value -/

/-- The value of a field that no source has. -/
def default (f : Field) : RawValue :=
  SettingsRecord.valueOf {} f

/-- The value of the kind of the field that a value of any kind gives. -/
def validate : Field → RawValue → Except Issue RawValue
  | .port, v => (Settings.portOf v).map .integer
  | _, v => (Settings.textOf v).map .text

/-- What a field makes of the value that is selected for it, if there is one. -/
def result (f : Field) : Option RawValue → Except Detail RawValue
  | none => .ok f.default
  | some v => (f.validate v).mapError (⟨f.name, ·⟩)

theorem mem_all (f : Field) : f ∈ all := by
  cases f <;> decide

end Field

namespace Settings

/-- What is wrong with the selected values, field by field. -/
def details (selected : Field → Option RawValue) : List Detail :=
  Field.all.filterMap fun f ↦ Detail.ofResult? (f.result (selected f))

/-- Nothing is wrong exactly if every field accepts what is selected for it. -/
theorem details_eq_nil_iff {selected : Field → Option RawValue} :
    details selected = [] ↔ ∀ f : Field, ∃ v, f.result (selected f) = .ok v := by
  rw [details, List.filterMap_eq_nil_iff]
  refine ⟨fun h f ↦ ?_, fun h f _ ↦ ?_⟩
  · have hf := h f f.mem_all
    cases hr : f.result (selected f) with
    | ok v => exact ⟨v, rfl⟩
    | error d => rw [hr] at hf; exact nomatch hf
  · obtain ⟨v, hv⟩ := h f
    rw [hv]
    rfl

end Settings

namespace Sources

/-- A field is read as `Field.result` has it. -/
theorem field_map {α : Type} {s : Sources} {f : Field} {read : RawValue → Except Issue α}
    {wrap : α → RawValue} {default : α} (hread : ∀ v, (read v).map wrap = f.validate v)
    (hdefault : wrap default = f.default) :
    (s.field read f default).map wrap = f.result (s.select f) := by
  unfold field
  cases s.select f with
  | none => exact congrArg Except.ok hdefault
  | some v =>
    show ((read v).mapError _).map wrap = (f.validate v).mapError _
    rw [← hread v]
    cases read v <;> rfl

end Sources

/-- Values of another kind do not change what is wrong. -/
theorem Detail.ofResult?_map {α β : Type} (wrap : α → β) (x : Except Detail α) :
    Detail.ofResult? (x.map wrap) = Detail.ofResult? x := by
  cases x <;> rfl

section Except

variable {ε δ α β : Type} {x : Except ε α}

theorem exists_ok_of_map {wrap : α → β} (h : ∃ b, x.map wrap = .ok b) : ∃ a, x = .ok a := by
  cases x with
  | ok a => exact ⟨a, rfl⟩
  | error e => obtain ⟨_, h⟩ := h; exact nomatch h

theorem mapError_eq_ok_iff {f : ε → δ} {a : α} : x.mapError f = .ok a ↔ x = .ok a := by
  cases x with
  | ok b => exact ⟨fun h ↦ congrArg _ (Except.ok.inj h), fun h ↦ congrArg _ (Except.ok.inj h)⟩
  | error e => exact iff_of_false nofun nofun

theorem mapError_eq_error_iff {f : ε → δ} {d : δ} :
    x.mapError f = .error d ↔ ∃ e, x = .error e ∧ f e = d := by
  cases x with
  | ok b => exact iff_of_false nofun nofun
  | error e =>
    refine ⟨fun h ↦ ⟨e, rfl, Except.error.inj h⟩, ?_⟩
    rintro ⟨_, ⟨⟩, rfl⟩
    rfl

end Except

/-- A blank field is shown as no other. -/
theorem RawValue.ofField_injective {α : Type} {wrap : α → RawValue} (hwrap : wrap.Injective)
    (hlist : ∀ a, wrap a ≠ .list []) : (RawValue.ofField wrap).Injective := by
  intro a b h
  cases a <;> cases b
  case none.none => rfl
  case none.some b => exact absurd h.symm (hlist b)
  case some.none a => exact absurd h (hlist a)
  case some.some a b => rw [hwrap h]

/-- Settings are told apart by the values of their fields. -/
theorem SettingsRecord.valueOf_injective : valueOf.Injective := by
  have htext : (RawValue.ofField RawValue.text).Injective :=
    RawValue.ofField_injective (fun _ _ ↦ RawValue.text.inj) (fun _ ↦ nofun)
  have hinteger : (RawValue.ofField RawValue.integer).Injective :=
    RawValue.ofField_injective (fun _ _ ↦ RawValue.integer.inj) (fun _ ↦ nofun)
  intro s s' h
  have h := congrFun h
  cases s
  cases s'
  rw [Settings.mk.injEq]
  exact ⟨RawValue.text.inj (h .projectName), RawValue.text.inj (h .version), htext (h .directory),
    htext (h .host), hinteger (h .port), htext (h .logLevel)⟩

namespace Settings

/-- Either all fields take what is selected for them, or it is told of all that do not. -/
theorem load_cases (s : Sources) :
    (∃ st, load s = .ok st ∧
        ∀ f : Field, f.result (s.select f) = .ok (SettingsRecord.valueOf st f)) ∨
      load s = .error (details s.select) ∧ details s.select ≠ [] := by
  have hprojectName : (s.field textOf .projectName defaultProjectName).map RawValue.text = _ :=
    Sources.field_map (fun _ ↦ rfl) rfl
  have hversion : (s.field textOf .version defaultVersion).map RawValue.text = _ :=
    Sources.field_map (fun _ ↦ rfl) rfl
  have hdirectory : (s.field textOf .directory defaultDirectory).map RawValue.text = _ :=
    Sources.field_map (fun _ ↦ rfl) rfl
  have hhost : (s.field textOf .host defaultHost).map RawValue.text = _ :=
    Sources.field_map (fun _ ↦ rfl) rfl
  have hport : (s.field portOf .port defaultPort).map RawValue.integer = _ :=
    Sources.field_map (fun _ ↦ rfl) rfl
  have hlogLevel : (s.field textOf .logLevel defaultLogLevel).map RawValue.text = _ :=
    Sources.field_map (fun _ ↦ rfl) rfl
  simp only [load]
  split
  case h_1 h₁ h₂ h₃ h₄ h₅ h₆ =>
    left
    refine ⟨_, rfl, fun f ↦ ?_⟩
    cases f
    case projectName => rw [← hprojectName, h₁]; rfl
    case version => rw [← hversion, h₂]; rfl
    case directory => rw [← hdirectory, h₃]; rfl
    case host => rw [← hhost, h₄]; rfl
    case port => rw [← hport, h₅]; rfl
    case logLevel => rw [← hlogLevel, h₆]; rfl
  case h_2 h =>
    right
    refine ⟨congrArg Except.error ?_, fun hnil ↦ ?_⟩
    · show _ = (([Field.projectName, .version, .directory, .host].map fun f ↦
        Detail.ofResult? (f.result (s.select f))) ++
          ([Detail.ofResult? (Field.port.result (s.select .port))] ++
            [Detail.ofResult? (Field.logLevel.result (s.select .logLevel))])).filterMap id
      simp only [List.map_cons, List.map_nil, List.filterMap_append, ← hprojectName, ← hversion,
        ← hdirectory, ← hhost, ← hport, ← hlogLevel, Detail.ofResult?_map]
      rfl
    · -- without a detail all fields are read, and that is the first case
      have hok := details_eq_nil_iff.1 hnil
      obtain ⟨_, h₁⟩ := exists_ok_of_map (hprojectName ▸ hok .projectName)
      obtain ⟨_, h₂⟩ := exists_ok_of_map (hversion ▸ hok .version)
      obtain ⟨_, h₃⟩ := exists_ok_of_map (hdirectory ▸ hok .directory)
      obtain ⟨_, h₄⟩ := exists_ok_of_map (hhost ▸ hok .host)
      obtain ⟨_, h₅⟩ := exists_ok_of_map (hport ▸ hok .port)
      obtain ⟨_, h₆⟩ := exists_ok_of_map (hlogLevel ▸ hok .logLevel)
      exact h _ _ _ _ _ _ h₁ h₂ h₃ h₄ h₅ h₆

/-- **Settings are loaded exactly if every field accepts** what is selected for it, and they hold
what the fields make of it. -/
theorem load_eq_ok_iff {s : Sources} {st : Settings} :
    load s = .ok st ↔ ∀ f : Field, f.result (s.select f) = .ok (SettingsRecord.valueOf st f) := by
  rcases load_cases s with ⟨st', hload, hfields⟩ | ⟨hload, hdetails⟩
  · rw [hload, Except.ok.injEq]
    refine ⟨fun h ↦ h ▸ hfields, fun h ↦ SettingsRecord.valueOf_injective (funext fun f ↦ ?_)⟩
    exact Except.ok.inj ((hfields f).symm.trans (h f))
  · rw [hload]
    exact iff_of_false nofun fun h ↦ hdetails (details_eq_nil_iff.2 fun f ↦ ⟨_, h f⟩)

/-- Otherwise the details are those of the fields that do not accept. -/
theorem load_eq_error_iff {s : Sources} {ds : List Detail} :
    load s = .error ds ↔ details s.select ≠ [] ∧ ds = details s.select := by
  rcases load_cases s with ⟨st, hload, hfields⟩ | ⟨hload, hdetails⟩
  · rw [hload]
    refine iff_of_false nofun fun h ↦ h.1 (details_eq_nil_iff.2 fun f ↦ ⟨_, hfields f⟩)
  · rw [hload, Except.error.injEq]
    exact ⟨fun h ↦ ⟨hdetails, h.symm⟩, fun h ↦ h.2.symm⟩

end Settings

end StaticServer
