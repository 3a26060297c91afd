import SlideGraph.Collection.KeyMap
import SlideGraph.Collection.OrderedMap
import SlideGraph.Json.Reader.Container

/-!
# Maps as documents

A map is written as an object, its members in the order of its entries. An object that is read may
have a key more than once, and the last value of a key counts.
-/

namespace SlideGraph

open Json

variable {α : Type}

def KeyMap.toValue (f : α → Value) (m : KeyMap α) : Value :=
  .object (m.entries.map fun (k, v) => (k, f v))

def KeyMap.reader (r : Reader α) : Reader (KeyMap α) :=
  .entries (fun k v m => m.insert k v) .empty r

def OrderedMap.toValue (f : α → Value) (m : OrderedMap α) : Value :=
  .object (m.entries.map fun (k, v) => (k, f v))

def OrderedMap.reader (r : Reader α) : Reader (OrderedMap α) :=
  .entries (fun k v m => m.put k v) .empty r

end SlideGraph
