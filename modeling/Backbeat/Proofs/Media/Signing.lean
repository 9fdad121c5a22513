import Backbeat.Proofs.Media.Intake
import Backbeat.Proofs.Text.Unreserved

/-!
# A signed URL stands for one upload

What is signed is put together without any escaping, so the name of an object may contain all that
separates the fields of a URL.  Still a URL can be read in one way only, which is from its end:
neither the tag nor the expiry nor the kind contains an ampersand, so the last three ampersands are
those that separate them, and everything before belongs to the name.

The main statement is that a URL that is accepted for two uploads states the same object, kind and
expiry in both, and that of all strings only the one that the signer builds is accepted for an
upload, until the upload expires.
-/

namespace Backbeat

/-- What stands behind the last mark of a list can be told apart from what stands before it. -/
theorem eq_of_append_mark_eq {α : Type} {mark : α} {front front' back back' : List α}
    (unmarked : mark ∉ back) (unmarked' : mark ∉ back')
    (same : front ++ mark :: back = front' ++ mark :: back') : front = front' ∧ back = back' := by
  rcases List.append_eq_append_iff.mp same with ⟨between, longer, rest⟩ | ⟨between, longer, rest⟩
  · cases between with
    | nil =>
      rw [List.append_nil] at longer
      exact ⟨longer.symm, (List.cons.inj rest).2⟩
    | cons first more =>
      have inside : mark ∈ back := by
        rw [(List.cons.inj rest).2]
        exact List.mem_append_right more List.mem_cons_self
      exact absurd inside unmarked
  · cases between with
    | nil =>
      rw [List.append_nil] at longer
      exact ⟨longer, (List.cons.inj rest).2.symm⟩
    | cons first more =>
      have inside : mark ∈ back' := by
        rw [(List.cons.inj rest).2]
        exact List.mem_append_right more List.mem_cons_self
      exact absurd inside unmarked'

namespace MediaKind

theorem name_injective {left right : MediaKind} (same : left.name = right.name) : left = right := by
  have read := congrArg ofName? same
  rw [ofName?_name, ofName?_name] at read
  exact Option.some.inj read

theorem unreserved_name (kind : MediaKind) : Text.Unreserved kind.name.toList := by
  cases kind <;> decide

end MediaKind

theorem Signer.unreserved_sign (signer : Signer) (text : String) :
    Text.Unreserved (signer.sign text).toList := by
  rw [sign, String.toList_ofList]
  exact Text.unreserved_base64 _

/-- A label and a value that needs no escaping contain no ampersand. -/
theorem ampersand_not_mem_field {label value : List Char} (unreserved : Text.Unreserved value)
    (unmarked : '&' ∉ label) : '&' ∉ label ++ value := by
  rw [List.mem_append]
  rintro (inLabel | inValue)
  · exact unmarked inLabel
  · exact unreserved.not_mem (by decide) inValue

variable {basePath name name' : String} {kind kind' : MediaKind} {expiry expiry' : Int}

theorem toList_canonicalUrl (basePath name : String) (kind : MediaKind) (expiry : Int) :
    (canonicalUrl basePath name kind expiry).toList =
      ((basePath ++ "?name=" ++ name).toList ++ '&' :: ("type=".toList ++ kind.name.toList)) ++
        '&' :: ("exp=".toList ++ (toString expiry).toList) := by
  have joined : canonicalUrl basePath name kind expiry =
      basePath ++ "?name=" ++ name ++ "&type=" ++ kind.name ++ "&exp=" ++ toString expiry := rfl
  rw [joined]
  simp [String.toList_append]

/-- What is signed can be read in one way only. -/
theorem canonicalUrl_injective
    (same : canonicalUrl basePath name kind expiry = canonicalUrl basePath name' kind' expiry') :
    name = name' ∧ kind = kind' ∧ expiry = expiry' := by
  have lists := congrArg String.toList same
  rw [toList_canonicalUrl, toList_canonicalUrl] at lists
  -- Split from the end, because the name may contain the marks.
  obtain ⟨before, expiries⟩ := eq_of_append_mark_eq
    (ampersand_not_mem_field (Text.unreserved_toString expiry) (by decide))
    (ampersand_not_mem_field (Text.unreserved_toString expiry') (by decide)) lists
  obtain ⟨names, kinds⟩ := eq_of_append_mark_eq
    (ampersand_not_mem_field kind.unreserved_name (by decide))
    (ampersand_not_mem_field kind'.unreserved_name (by decide)) before
  refine ⟨?_, ?_, ?_⟩
  · rw [String.toList_append, String.toList_append (t := name')] at names
    exact String.toList_inj.mp (List.append_cancel_left names)
  · exact MediaKind.name_injective (String.toList_inj.mp (List.append_cancel_left kinds))
  · exact Text.eq_of_toString_eq (String.toList_inj.mp (List.append_cancel_left expiries))

namespace Signer

variable {signer : Signer}

theorem toList_toString_build (signer : Signer) (name : String) (kind : MediaKind) (expiry : Int) :
    (signer.build name kind expiry).toString.toList =
      (canonicalUrl signer.basePath name kind expiry).toList ++
        '&' :: ("hash=".toList ++
          (signer.sign (canonicalUrl signer.basePath name kind expiry)).toList) := by
  have joined : (signer.build name kind expiry).toString =
      canonicalUrl signer.basePath name kind expiry ++ "&hash=" ++
        signer.sign (canonicalUrl signer.basePath name kind expiry) := rfl
  rw [joined]
  simp [String.toList_append]

/-- A signer writes different URLs for different uploads. -/
theorem build_injective
    (same : (signer.build name kind expiry).toString =
      (signer.build name' kind' expiry').toString) :
    name = name' ∧ kind = kind' ∧ expiry = expiry' := by
  have lists := congrArg String.toList same
  rw [toList_toString_build, toList_toString_build] at lists
  obtain ⟨signed, -⟩ := eq_of_append_mark_eq
    (ampersand_not_mem_field (signer.unreserved_sign _) (by decide))
    (ampersand_not_mem_field (signer.unreserved_sign _) (by decide)) lists
  exact canonicalUrl_injective (String.toList_inj.mp signed)

/-- A URL authorises one upload only.  Whatever the names contain and whatever tags the signer
gives, a URL that is accepted for two uploads, at any times, states the same object, kind and expiry
in both; before an upload expires, the URL that the signer builds for it is accepted and no other
string is, and from then on no string is. -/
theorem verify_authorises_one (signer : Signer) (received : String) (first second : Upload)
    (firstTime secondTime : Int) :
    (signer.verify received first firstTime = .ok () →
      signer.verify received second secondTime = .ok () →
      first.name = second.name ∧ first.kind = second.kind ∧ first.expiry = second.expiry) ∧
    (firstTime < first.expiry → ∀ url, signer.verify url first firstTime = .ok () ↔
      url = (signer.build first.name first.kind first.expiry).toString) ∧
    (first.expiry ≤ firstTime → ∀ url,
      signer.verify url first firstTime = .error (.urlExpired first.expiry firstTime)) := by
  refine ⟨?_, ?_, ?_⟩
  · intro accepted acceptedToo
    rcases (signer.verify_eq_ok_iff received first firstTime).mp accepted with ⟨-, built⟩
    rcases (signer.verify_eq_ok_iff received second secondTime).mp acceptedToo with ⟨-, builtToo⟩
    exact build_injective (built.symm.trans builtToo)
  · intro inTime url
    constructor
    · intro accepted
      exact ((signer.verify_eq_ok_iff url first firstTime).mp accepted).2
    · intro built
      exact (signer.verify_eq_ok_iff url first firstTime).mpr ⟨inTime, built⟩
  · intro late url
    exact if_pos late

end Signer

namespace Rehearsal.Sample

/-- An upload whose name reads like the fields that follow a name. -/
def trickyUpload : Upload where
  kind := .image
  contentType := "image/png"
  declaredLength := 1
  name := "cover&type=archive&exp=9000&hash=x?name=ü"
  expiry := -5
  url := ""

/-- The URL that is signed for that upload. -/
def trickyUrl : String :=
  (signer.build trickyUpload.name trickyUpload.kind trickyUpload.expiry).toString

end Rehearsal.Sample

open Rehearsal in
/-- A name that looks like other fields does not pass for them. -/
theorem verify_authorises_one_tricky :
    Sample.signer.verify Sample.trickyUrl Sample.trickyUpload (-6) = .ok () ∧
      Sample.signer.verify Sample.trickyUrl (Sample.coverUpload 1) 1000 ≠ .ok () ∧
      Sample.signer.verify Sample.trickyUrl Sample.trickyUpload (-5) =
        .error (.urlExpired (-5) (-5)) := by
  obtain ⟨same, good, -⟩ := Signer.verify_authorises_one Sample.signer Sample.trickyUrl
    Sample.trickyUpload (Sample.coverUpload 1) (-6) 1000
  obtain ⟨-, -, late⟩ := Signer.verify_authorises_one Sample.signer Sample.trickyUrl
    Sample.trickyUpload Sample.trickyUpload (-5) (-5)
  have accepted := (good (by decide) Sample.trickyUrl).mpr rfl
  refine ⟨accepted, ?_, late (by decide) Sample.trickyUrl⟩
  intro acceptedToo
  exact absurd (same accepted acceptedToo).2.2 (by decide)

end Backbeat
