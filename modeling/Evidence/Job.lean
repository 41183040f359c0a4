import Evidence.Text.Basic

/-!
# CI jobs

The identity of the CI job that a run belongs to, and where its artifacts are published.

Main definitions:

- `PullRequest` and `Job`: what a job is known by.
- `Job.artifactsUrl`: the address of the artifacts of a job.
-/

namespace Evidence

/-- The pull request that a job tests. -/
structure PullRequest where
  owner : Text
  repo : Text
  number : Text
deriving DecidableEq, Repr

/-- A CI job: its name, the number of the build, and the pull request unless it is periodic. -/
structure Job where
  name : Text
  build : Text
  pullRequest : Option PullRequest
deriving DecidableEq, Repr

namespace Job

/-- The address below which the artifacts of all jobs are published. -/
def publishedAt : Text :=
  "https://gcsweb-ci.apps.ci.l2s4.p1.openshiftapps.com/gcs/origin-ci-test".toList

/-- Where the artifacts of the end-to-end step lie below those of its job. -/
def stepArtifacts : Text :=
  "artifacts/redhat-appstudio-e2e/redhat-appstudio-e2e/artifacts".toList

/-- The part of an address that names a pull request. -/
def pullRequestPart (pr : PullRequest) : Text :=
  "/pr-logs/pull/".toList ++ pr.owner ++ '_' :: pr.repo ++ '/' :: pr.number

/-- The address of the artifacts of a job. -/
def artifactsUrl (job : Job) : Text :=
  publishedAt ++ (job.pullRequest.map pullRequestPart).getD []
    ++ '/' :: job.name ++ '/' :: job.build ++ '/' :: stepArtifacts

end Job

end Evidence
