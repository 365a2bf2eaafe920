import RelayBoard.Web.Form
import RelayBoard.Web.Placeholders

/-! # The Page of an Update

  What `ota_post_handler` of `main/web.c` makes of `firmware-updating.html`: the loops
  over the placeholders of the page, and when all of them end.
-/

open CString Settings Rewriting

namespace Web

/-! ### The Values -/

/-- The placeholder of the URL. -/
def valSwFirmwareUrl : Bracketed Char where
  opening := '\x7b'
  inner := "VAL_SW_FIRMWARE_URL".toList
  closing := '\x7d'
  ne := by decide
  opening_not_mem := by decide
  closing_not_mem := by decide

/-- The placeholder of the version. -/
def valSwVersionNew : Bracketed Char where
  opening := '\x7b'
  inner := "VAL_SW_VERSION_NEW".toList
  closing := '\x7d'
  ne := by decide
  opening_not_mem := by decide
  closing_not_mem := by decide

/-! ### The Template -/

/-- `firmware-updating.html`: each of the two placeholders is the whole text of an
    element, and occurs nowhere else. -/
structure UpdatingPage where
  before : CStr
  between : CStr
  after : CStr
  url_free : ∀ part ∈ [before, between, after], ¬ valSwFirmwareUrl.pat <:+: part
  version_free : ∀ part ∈ [before, between, after], ¬ valSwVersionNew.pat <:+: part

/-- The page with texts in the two elements. -/
def UpdatingPage.fill (t : UpdatingPage) (url version : CStr) : CStr :=
  t.before ++ '>' :: (url ++ '<' :: (t.between ++ '>' :: (version ++ '<' :: t.after)))

/-- The file. -/
def UpdatingPage.html (t : UpdatingPage) : CStr :=
  t.fill valSwFirmwareUrl.pat valSwVersionNew.pat

/-! ### The Loops -/

variable {t : UpdatingPage} {build : BuildNum} {otaUrl version : CStr}

/-- The values that `assign_static_page_variables` prints have no braces. -/
theorem staticPageVariables_braces (build : BuildNum) :
    ∀ v ∈ staticPageVariables build, '\x7b' ∈ v.1 ∧ '\x7b' ∉ v.2 := by
  have hbuild : '\x7b' ∉ build.text := by
    intro hmem
    have hdigit := List.all_eq_true.mp build.digits _ hmem
    exact absurd hdigit (by decide)
  have hversion : '\x7b' ∉ deviceSwVersion build := by
    unfold deviceSwVersion
    rw [List.mem_append, not_or]
    exact ⟨by decide, hbuild⟩
  unfold staticPageVariables
  simp only [List.forall_mem_cons]
  and_intros
  all_goals first
    | exact hbuild
    | exact hversion
    | exact fun v hv => absurd hv List.not_mem_nil
    | decide +kernel

/-- A build of some second. -/
def someBuild : BuildNum := ⟨"20250101120000".toList, by decide⟩

end Web
