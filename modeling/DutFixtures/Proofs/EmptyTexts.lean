import DutFixtures.Proofs.SharedValues
import DutFixtures.Tool.Answer

namespace DutFixtures

/-- A context in which empty texts are left out. -/
def BuildContext.cleaned (ctx : BuildContext) : BuildContext where
  appDir := ctx.appDir
  target := unlessEmpty ctx.target
  config := unlessEmpty ctx.config
  chosenDir := unlessEmpty ctx.chosenDir

theorem BuildContext.candidates_cleaned (ctx : BuildContext) :
    ctx.cleaned.candidates = ctx.candidates := by
  simp only [candidates, rawCandidates, cleaned, unlessEmpty_unlessEmpty]

section Cleaned

variable {ctx other : BuildContext} (same : ctx.cleaned = other.cleaned)
include same

theorem BuildContext.candidates_of_cleaned : ctx.candidates = other.candidates := by
  rw [← candidates_cleaned ctx, same, candidates_cleaned]

theorem BuildContext.appDir_of_cleaned : ctx.appDir = other.appDir := by
  have dirs : ctx.cleaned.appDir = other.cleaned.appDir := by rw [same]
  exact dirs

/-- A search does not tell an empty text from an absent one. -/
theorem BuildContext.search_of_cleaned (isDir : String → Bool) :
    ctx.search isDir = other.search isDir := by
  simp only [search, candidates_of_cleaned same, appDir_of_cleaned same]

theorem BuildContext.candidatesAnswer_of_cleaned :
    ctx.candidatesAnswer = other.candidatesAnswer := by
  simp only [candidatesAnswer, candidates_of_cleaned same, appDir_of_cleaned same]

theorem BuildContext.buildDirAnswer_of_cleaned (isDir : String → Bool) :
    ctx.buildDirAnswer isDir = other.buildDirAnswer isDir := by
  simp only [buildDirAnswer, search_of_cleaned same, appDir_of_cleaned same]

end Cleaned

/-- The parameters that may be given as an empty text. -/
inductive NamePart where
  | target
  | config
  | buildDir
  deriving DecidableEq, Repr

/-- A context with another text for a parameter. -/
def BuildContext.withPart (ctx : BuildContext) (part : NamePart) (value : Option String) :
    BuildContext :=
  match part with
  | .target => { ctx with target := value }
  | .config => { ctx with config := value }
  | .buildDir => { ctx with chosenDir := value }

def DutRequest.withPart (r : DutRequest) (part : NamePart) (value : Option String) :
    DutRequest :=
  match part with
  | .target => { r with target := value }
  | .config => { r with config := value }
  | .buildDir => { r with buildDir := value }

theorem BuildContext.cleaned_withPart_empty (ctx : BuildContext) (part : NamePart) :
    (ctx.withPart part (some "")).cleaned = (ctx.withPart part none).cleaned := by
  cases part <;> rfl

theorem isBlankValue_empty (count : Nat) : IsBlankValue "" count := by
  have single : "".toList.splitOn dutSeparator = [[]] := rfl
  refine ⟨Or.inl (by rw [single]; rfl), ?_⟩
  rw [single]
  simp

/-- An empty field has one empty part for all DUTs, which is as good as none. -/
theorem DutRequest.respelledAs_withPart_empty (r : DutRequest) (part : NamePart) :
    (r.withPart part none).RespelledAs (r.withPart part (some "")) := by
  have empty (count : Nat) : Respelled count none (some "") := .filledIn (isBlankValue_empty count)
  cases part with
  | target => exact ⟨rfl, .kept _, empty _, .kept _, .kept _⟩
  | config => exact ⟨rfl, .kept _, .kept _, empty _, .kept _⟩
  | buildDir => exact ⟨rfl, .kept _, .kept _, .kept _, empty _⟩

theorem DutRequest.run_withPart_empty (r : DutRequest) (part : NamePart)
    (isDir : String → Bool) :
    (r.withPart part (some "")).run isDir = (r.withPart part none).run isDir := by
  have same := r.respelledAs_withPart_empty part
  exact run_congr same.count same.fault?_eq (fun _ => same.contextFor_eq) isDir

end DutFixtures
