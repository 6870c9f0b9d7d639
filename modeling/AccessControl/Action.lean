/-!
# Actions

The names of the actions that the standard policies grant. An action is a plain text, so that a
policy of a host application can grant others.
-/

set_option autoImplicit false

namespace AccessControl.Action

def read : String := "read"

def create : String := "create"

def update : String := "update"

def delete : String := "delete"

/-- Accepting what an entity reports or asks for. -/
def approve : String := "approve"

def uploadFiles : String := "uploadFiles"

def deleteFiles : String := "deleteFiles"

/-- Removing many entities at once. -/
def deleteBulk : String := "deleteBulk"

def all : List String :=
  [read, create, update, delete, approve, uploadFiles, deleteFiles, deleteBulk]

end AccessControl.Action
