import DevicePlan.Job.Toml
import DevicePlan.Storage

namespace DevicePlan.Job

inductive FileError where
  | storage (error : StorageError)
  | content (error : LoadError)
deriving DecidableEq

def load (storage : Storage) (path : String) : Except FileError Job :=
  match storage.readText path with
  | .error error => .error (.storage error)
  | .ok text =>
    match ofToml text with
    | .error error => .error (.content error)
    | .ok job => .ok job

end DevicePlan.Job
