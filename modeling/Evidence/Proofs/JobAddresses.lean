import Evidence.Job
import Mathlib.Data.List.Basic

/-!
# Addresses of jobs

The address of the artifacts of a job says which job it is.  Two texts with no slash in them stand
between the fixed parts of the address of a periodic job, and six in that of a job on a pull
request, so not even a job called like a fixed part can pass for one of the other kind.

Main definitions:

- `Job.IsPlain`: no part of a job holds a slash, and no underscore is in the owner's name.
- `Job.segments` and `Job.ofSegments?`: what stands between the fixed parts of an address, and the
  job that it belongs to.

Main results:

- `Job.artifactsUrl_eq`: an address is made of its segments.
- `Job.ofSegments?_segments`: a job is read back from the segments of its address.
- `Job.artifactsUrl_inj`: jobs with one address are the same.
-/

namespace Evidence

/-- No part of a pull request holds a slash, and its owner's name holds no underscore either. -/
structure PullRequest.IsPlain (pr : PullRequest) : Prop where
  owner : '/' ∉ pr.owner
  owner_unbroken : '_' ∉ pr.owner
  repo : '/' ∉ pr.repo
  number : '/' ∉ pr.number

/-- No part of a job holds a slash, nor does an owner's name hold an underscore. -/
structure Job.IsPlain (job : Job) : Prop where
  name : '/' ∉ job.name
  build : '/' ∉ job.build
  pullRequest : ∀ pr, job.pullRequest = some pr → pr.IsPlain

/-! ## Segments of an address -/

/-- The segments that name a pull request. -/
def PullRequest.segments (pr : PullRequest) : List Text :=
  ["pr-logs".toList, "pull".toList, pr.owner ++ '_' :: pr.repo, pr.number]

namespace Job

variable {job other : Job}

/-- What stands between the slashes of an address, without its fixed parts at both ends. -/
def segments (job : Job) : List Text :=
  (job.pullRequest.map PullRequest.segments).getD [] ++ [job.name, job.build]

/-- The job that segments belong to.  Their number says whether there is a pull request; its owner
ends at the first underscore. -/
def ofSegments? : List Text → Option Job
  | [name, build] => some ⟨name, build, none⟩
  | [_, _, repo, number, name, build] =>
    some ⟨name, build,
      some ⟨repo.takeWhile (· != '_'), (repo.dropWhile (· != '_')).tail, number⟩⟩
  | _ => none

/-- The part of an address that names a pull request is made of its segments. -/
theorem pullRequestPart_eq (pr : PullRequest) :
    pullRequestPart pr = '/' :: ['/'].intercalate pr.segments := by
  calc pullRequestPart pr
    _ = '/' :: ("pr-logs".toList ++ '/' :: ("pull".toList ++ ['/'])) ++ pr.owner ++ '_' :: pr.repo
        ++ '/' :: pr.number := rfl
    _ = '/' :: ['/'].intercalate pr.segments := by
      simp only [PullRequest.segments, List.intercalate_cons_cons, List.intercalate_singleton,
        List.cons_append, List.nil_append, List.append_assoc]

/-- An address is made of its segments, with slashes between them and fixed parts at both ends. -/
theorem artifactsUrl_eq (job : Job) : job.artifactsUrl
    = publishedAt ++ '/' :: (['/'].intercalate job.segments ++ '/' :: stepArtifacts) := by
  obtain ⟨name, build, pr⟩ := job
  cases pr with
  | none =>
    simp only [artifactsUrl, segments, Option.map_none, Option.getD_none, List.nil_append,
      List.append_nil, List.intercalate_cons_cons, List.intercalate_singleton, List.append_assoc,
      List.cons_append]
  | some pr =>
    simp only [artifactsUrl, segments, Option.map_some, Option.getD_some, pullRequestPart_eq,
      PullRequest.segments, List.intercalate_cons_cons, List.intercalate_singleton,
      List.cons_append, List.nil_append, List.append_assoc]

theorem segments_ne_nil (job : Job) : job.segments ≠ [] := by
  simp [segments]

/-- The segments of a plain job are what stands between slashes: none of them holds one. -/
theorem IsPlain.not_mem_segments (h : job.IsPlain) : ∀ part ∈ job.segments, '/' ∉ part := by
  obtain ⟨name, build, pr⟩ := job
  cases pr with
  | none => simp [segments, h.name, h.build]
  | some pr =>
    have hpr := h.pullRequest pr rfl
    simp [segments, PullRequest.segments, h.name, h.build, hpr.owner, hpr.repo, hpr.number]

/-- A plain job is read back from its segments. -/
theorem ofSegments?_segments (h : job.IsPlain) : ofSegments? job.segments = some job := by
  obtain ⟨name, build, pr⟩ := job
  cases pr with
  | none => rfl
  | some pr =>
    obtain ⟨owner, repo, number⟩ := pr
    have howner : '_' ∉ owner := (h.pullRequest _ rfl).owner_unbroken
    simp [segments, PullRequest.segments, ofSegments?, Text.takeWhile_bne_append howner,
      Text.dropWhile_bne_append howner]

/-! ## One address, one job -/

/-- Plain jobs with one address have the same segments. -/
theorem segments_eq_of_artifactsUrl_eq (hjob : job.IsPlain) (hother : other.IsPlain)
    (h : job.artifactsUrl = other.artifactsUrl) : job.segments = other.segments := by
  rw [artifactsUrl_eq, artifactsUrl_eq] at h
  -- The fixed parts at both ends are the same, so what stands between them is.
  have hbehind := (List.cons.inj (List.append_cancel_left h)).2
  have hwritten : ['/'].intercalate job.segments = ['/'].intercalate other.segments :=
    List.append_cancel_right hbehind
  calc job.segments
    _ = (['/'].intercalate job.segments).splitOn '/' :=
      (List.splitOn_intercalate '/' hjob.not_mem_segments job.segments_ne_nil).symm
    _ = (['/'].intercalate other.segments).splitOn '/' := by rw [hwritten]
    _ = other.segments :=
      List.splitOn_intercalate '/' hother.not_mem_segments other.segments_ne_nil

/-- The address of the artifacts of a job says which job it is: two jobs have one address only if
they are the same, down to the pull request or the lack of one.  Parts of a job may be empty, and
they may read like the fixed parts of an address. -/
theorem artifactsUrl_inj {job other : Job} (hjob : job.IsPlain) (hother : other.IsPlain) :
    job.artifactsUrl = other.artifactsUrl ↔ job = other := by
  constructor
  · intro h
    have hsegments := segments_eq_of_artifactsUrl_eq hjob hother h
    apply Option.some.inj
    rw [← ofSegments?_segments hjob, ← ofSegments?_segments hother, hsegments]
  · rintro rfl
    rfl

/-- A periodic job that is called like the fixed parts of an address has none of a pull request,
although the parts of that one are chosen to read the same. -/
theorem artifactsUrl_ne_of_fixed_names :
    let periodic : Job := ⟨"pr-logs".toList, "pull".toList, none⟩
    let onPullRequest : Job :=
      ⟨"artifacts".toList, [], some ⟨[], "pull_artifacts".toList, "pr-logs".toList⟩⟩
    periodic.IsPlain ∧ onPullRequest.IsPlain ∧
      periodic.artifactsUrl ≠ onPullRequest.artifactsUrl := by
  intro periodic onPullRequest
  have hperiodic : periodic.IsPlain := ⟨by decide, by decide, nofun⟩
  have hpart : PullRequest.IsPlain ⟨[], "pull_artifacts".toList, "pr-logs".toList⟩ :=
    ⟨by decide, by decide, by decide, by decide⟩
  have honPullRequest : onPullRequest.IsPlain :=
    ⟨by decide, by decide, fun pr h => Option.some.inj h ▸ hpart⟩
  refine ⟨hperiodic, honPullRequest, fun h => ?_⟩
  have hsame := (artifactsUrl_inj hperiodic honPullRequest).1 h
  exact Option.some_ne_none _ (congrArg pullRequest hsame).symm

/-- The underscore between owner and repository does not say which of both it belongs to. -/
example :
    let first : Job := ⟨['j'], ['1'], some ⟨['a'], ['b', '_', 'c'], ['7']⟩⟩
    let second : Job := ⟨['j'], ['1'], some ⟨['a', '_', 'b'], ['c'], ['7']⟩⟩
    first.artifactsUrl = second.artifactsUrl :=
  rfl

end Job

end Evidence
