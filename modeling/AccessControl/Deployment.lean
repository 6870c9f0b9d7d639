import AccessControl.Service

/-!
# Deployments

A service at work over a directory that changes under it. Requests are served one after another from
the directory as it is at that moment, and between them the accounts of users are changed. A run is
a list of such events, and every request has an answer.
-/

set_option autoImplicit false

namespace AccessControl

/-- What is asked about one actor. -/
inductive Question
  | authorize (action : String) (subject : Subject)
  | canAny (actions : List String) (subject : Subject)
  | permissions

/-- What can be asked of a service. -/
inductive Request
  | ask (actor : Actor) (question : Question)
  | metrics
  | exportMetrics
  | resetMetrics

/-- What a request is answered with. -/
inductive Answer
  | ruling (ruling : Ruling)
  | permissions (tokens : Except Fault TokenSet)
  | metrics (report : Option Report)
  | exposition (text : Option String)
  | done

/-- The answer to a request that took some time, and the service after it. -/
def Service.serve (s : Service) (source : Source) (elapsed : Latency) : Request → Answer × Service
  | .ask actor (.authorize action subject) =>
    let (ruling, s) := s.authorize source actor action subject elapsed
    (.ruling ruling, s)
  | .ask actor (.canAny actions subject) =>
    let (ruling, s) := s.canAny source actor actions subject elapsed
    (.ruling ruling, s)
  | .ask actor .permissions => (.permissions (permissions source actor), s)
  | .metrics => (.metrics s.report?, s)
  | .exportMetrics => (.exposition s.exposition?, s)
  | .resetMetrics => (.done, s.resetMetrics)

/-- A service and the directory that it reads. -/
structure Deployment where
  directory : Directory
  service : Service

/-- What happens in a deployment: the account of a user changes, or a request is served. -/
inductive Event
  | change (user : Identifier) (change : AccountChange)
  | request (request : Request) (elapsed : Latency)

namespace Deployment

/-- A service that is started over a directory. -/
def start (directory : Directory) (settings : Settings) (registry : Registry) : Deployment :=
  ⟨directory, .start settings registry⟩

def serve (d : Deployment) (request : Request) (elapsed : Latency) : Answer × Service :=
  d.service.serve d.directory.source elapsed request

def step (d : Deployment) : Event → Deployment
  | .change user c => { d with directory := d.directory.change user c }
  | .request request elapsed => { d with service := (d.serve request elapsed).2 }

/-- The deployment after a run. -/
def after (d : Deployment) (run : List Event) : Deployment :=
  run.foldl step d

/-- The answer to a request that is made now. -/
def answer (d : Deployment) (request : Request) (elapsed : Latency) : Answer :=
  (d.serve request elapsed).1

end Deployment

/-- No request changes the policies in force. -/
@[simp] theorem Service.registry_serve (s : Service) (source : Source) (elapsed : Latency)
    (request : Request) : (s.serve source elapsed request).2.registry = s.registry := by
  cases request with
  | ask actor question => cases question <;> rfl
  | metrics => rfl
  | exportMetrics => rfl
  | resetMetrics => rfl

end AccessControl
