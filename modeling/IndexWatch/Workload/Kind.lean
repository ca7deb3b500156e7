/-! The kinds of workload that are watched. -/

namespace IndexWatch.Workload

inductive Kind where
  | scheduledJob
  /-- A job that a scheduled job started. -/
  | triggeredJob
  | deployment
  | statefulSet
deriving DecidableEq

namespace Kind

/-- The name of the kind in the cluster. -/
def name : Kind → String
  | scheduledJob => "CronJob"
  | triggeredJob => "Job"
  | deployment => "Deployment"
  | statefulSet => "StatefulSet"

/-- The name of the kind in diagnostics. -/
def spelling : Kind → String
  | scheduledJob => "ScheduledJob"
  | triggeredJob => "TriggeredJob"
  | deployment => "Deployment"
  | statefulSet => "StatefulSet"

def ofName? (name : String) : Option Kind :=
  [scheduledJob, triggeredJob, deployment, statefulSet].find? (·.name == name)

end Kind

end IndexWatch.Workload
