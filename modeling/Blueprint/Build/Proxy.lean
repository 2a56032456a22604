import Blueprint.Handler
import Blueprint.Strategy

/-!
# Proxies

A proxy collects the values for one instance before it is made. A value may be ignored: it can be
read like any other, but does not reach the instance. The latest setting of a name decides both.
-/
namespace Blueprint

/-- `Proxy` — the values collected for one instance. -/
structure Proxy where
  /-- How the instance is made. -/
  strategy : Strategy
  /-- The model class of the instance. -/
  model : Value
  /-- The values by name. -/
  values : Table String Value := []
  /-- The names of ignored values. -/
  ignored : List String := []
  /-- The callbacks in order. -/
  callbacks : List Callback := []
deriving Repr

namespace Proxy

/-- `Proxy.set` — sets a value. -/
def set (proxy : Proxy) (name : String) (value : Value) (ignored : Bool) : Proxy :=
  { proxy with
    values := proxy.values.put name value
    ignored := if ignored then
        if proxy.ignored.contains name then proxy.ignored else proxy.ignored ++ [name]
      else proxy.ignored.filter fun other => other != name }

/-- `Proxy.get` — the value under a name. -/
def get (proxy : Proxy) (name : String) : Except Fault Value :=
  match proxy.values.lookup name with
  | some value => .ok value
  | none => .error (.valueUnset name)

/-- `Proxy.has` — there is a value under a name. -/
def has (proxy : Proxy) (name : String) : Bool := Table.has proxy.values name

/-- `Proxy.persisted_values` — the values that reach the instance. -/
def persistedValues (proxy : Proxy) : Table String Value :=
  proxy.values.filter fun entry => !proxy.ignored.contains entry.1

/-- `AttributesForProxy.result` — the values that reach the instance, as a map. -/
def valueMap (proxy : Proxy) : Value := .ofFields proxy.persistedValues

/-- The names of ignored values, sorted. -/
def ignoredNames (proxy : Proxy) : List String := proxy.ignored.mergeSort fun a b => decide (a ≤ b)

/-- `Proxy.add_callback` — adds a callback. -/
def addCallback (proxy : Proxy) (callback : Callback) : Proxy :=
  { proxy with callbacks := proxy.callbacks ++ [callback] }

/-- The callbacks of a moment, in order. -/
def callbacksAt (proxy : Proxy) (moment : Moment) : List Callback :=
  proxy.callbacks.filter fun callback => callback.moment == moment

end Proxy

end Blueprint
