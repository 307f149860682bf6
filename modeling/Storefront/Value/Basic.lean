import Storefront.Time.DateTime

/-!
# Values

The data the service handles at run time: scalars, timestamps, task statuses, sequences,
string-keyed maps and records. A record is an instance of one of the service's record classes,
holding its fields in declaration order; its fields are not checked against their hints.
-/

namespace Storefront

/-- The status of a fulfilment task. -/
inductive TaskStatus where
  | undefinedStatus
  | waitingTask
  | waitingCustomer
  | waitingPayment
  | waitingCs
  | waitingService
  | waitingThirdParty
  | paused
  | canceled
  | completed
deriving DecidableEq, Repr, Inhabited

namespace TaskStatus

/-- Every status, by rising code. -/
def all : List TaskStatus :=
  [undefinedStatus, waitingTask, waitingCustomer, waitingPayment, waitingCs, waitingService,
    waitingThirdParty, paused, canceled, completed]

/-- The number that stands for a status. -/
def code : TaskStatus → Nat
  | undefinedStatus => 0
  | waitingTask => 1
  | waitingCustomer => 2
  | waitingPayment => 3
  | waitingCs => 4
  | waitingService => 5
  | waitingThirdParty => 6
  | paused => 98
  | canceled => 99
  | completed => 100

/-- The name of a status. -/
def name : TaskStatus → String
  | undefinedStatus => "UNDEFINED_STATUS"
  | waitingTask => "WAITING_TASK"
  | waitingCustomer => "WAITING_CUSTOMER"
  | waitingPayment => "WAITING_PAYMENT"
  | waitingCs => "WAITING_CS"
  | waitingService => "WAITING_SERVICE"
  | waitingThirdParty => "WAITING_THIRD_PARTY"
  | paused => "PAUSED"
  | canceled => "CANCELED"
  | completed => "COMPLETED"

/-- The status with a code. -/
def ofCode? (n : Int) : Option TaskStatus := all.find? fun s => (s.code : Int) == n

theorem ofCode?_code (s : TaskStatus) : ofCode? s.code = some s := by
  cases s <;> rfl

end TaskStatus

/-- The record classes of the service. -/
inductive RecordClass where
  | person
  | money
  | postalAddress
  | orderItem
  | order
  | parameter
  | task
  | taskTemplate
  | cursor
deriving DecidableEq, Repr, Inhabited

namespace RecordClass

/-- Every record class. -/
def all : List RecordClass :=
  [person, money, postalAddress, orderItem, order, parameter, task, taskTemplate, cursor]

/-- The class name. -/
def name : RecordClass → String
  | person => "Person"
  | money => "Money"
  | postalAddress => "PostalAddress"
  | orderItem => "OrderItem"
  | order => "Order"
  | parameter => "Parameter"
  | task => "Task"
  | taskTemplate => "TaskTemplate"
  | cursor => "Cursor"

/-- The class with a name. -/
def ofName? (s : String) : Option RecordClass := all.find? (·.name == s)

/-- The module that declares a class. -/
def moduleName : RecordClass → String
  | person => "ecomm.model"
  | money => "ecomm.model"
  | postalAddress => "ecomm.model"
  | orderItem => "ecomm.orders"
  | order => "ecomm.orders"
  | parameter => "ecomm.fulfillment"
  | task => "ecomm.fulfillment"
  | taskTemplate => "ecomm.fulfillment"
  | cursor => "ecomm.cursor"

/-- The documentation text of a class, as it is written in its declaration. -/
def doc : RecordClass → String
  | person => "A human individual."
  | money => "\n    An amount of money in a specific currency.\n\n    Attributes:\n    • currency_code: three-letter ISO 4217 currency code\n    • units: whole units of the amount\n    • nanos: number of nano (10^-9) units of the amount, between -999,999,999 and\n      +999,999,999 inclusive, with the same sign as units if units is non-zero\n\n    For example, $-1.75 is represented as units=-1 and nanos=-750000000.\n    "
  | postalAddress => "A postal address, as used for delivery or payment."
  | orderItem => "\n    A single entry in an order.\n\n    Attributes:\n    • id: unique identifier of the order item\n    • product_code: SKU code of the product or service ordered\n    • quantity: number of the product ordered\n    • unit_price: price of a single product, as shown to the customer\n    "
  | order => "\n    A customer order.\n\n    Attributes:\n    • id: unique identifier of the order, assigned by the cart upon checkout\n    • submission_time: time at which checkout was completed\n    • ordered_by: person who submitted the order\n    • delivery_address: delivery address for the order\n    • order_items: the items that make up the order\n    "
  | parameter => "A named value required to complete a task."
  | task => "\n    A fulfillment task.\n\n    Attributes:\n    • id: unique identifier of the task\n    • submission_time: time the task was created\n    • completion_time: time the task was completed\n    • order_id: identifier of the order the task fulfills\n    • order_item_id: identifier of the order item the task fulfills\n    • product_code: product code of the order item\n    • task_code: code identifying what the task does (e.g. \"ship\")\n    • status: current status of the task\n    • reason_code: code describing why the task has its current status\n    • parameters: named values required to complete the task\n    "
  | taskTemplate => "Describes a task to be created for each ordered item of a product."
  | cursor => "\n    Position of the last record delivered in a page.\n\n    Attributes:\n    • timestamp: record sort timestamp, in Unix nanoseconds\n    • id: record unique identifier\n    "

/-- Records of these classes cannot change once made, so they hash by their fields; records
of the other classes do not hash. -/
def frozen : RecordClass → Bool
  | taskTemplate | cursor => true
  | _ => false

/-- Records of these classes are built from keyword arguments only, with checked names and
the service's own error texts; the others are plain positional records. -/
def keywordOnly : RecordClass → Bool
  | taskTemplate | cursor => false
  | _ => true

end RecordClass

/-- A value. -/
inductive Value where
  | none
  | bool (b : Bool)
  | int (i : Int)
  | float (x : Float)
  | str (s : String)
  | time (t : DateTime)
  | status (s : TaskStatus)
  | list (items : List Value)
  | tuple (items : List Value)
  | dict (entries : List (String × Value))
  | record (cls : RecordClass) (fields : List (String × Value))
deriving Inhabited

namespace Value

/-- The field of a record, or the entry of a map, under a name. -/
def lookup (entries : List (String × Value)) (k : String) : Option Value :=
  (entries.find? (·.1 == k)).map (·.2)

/-- Truth as a condition: empty, zero and none are false. -/
def truthy : Value → Bool
  | none => false
  | bool b => b
  | int i => i != 0
  | float x => !(x == 0.0)
  | str s => !s.isEmpty
  | time _ => true
  | status s => s.code != 0
  | list xs => !xs.isEmpty
  | tuple xs => !xs.isEmpty
  | dict es => !es.isEmpty
  | record _ _ => true

/-- The value is none. -/
def isNone : Value → Bool
  | none => true
  | _ => false

mutual

/-- A value that can serve as a key of a map or a member of a set: lists and maps never do,
tuples when their items do, and records only of a frozen class whose fields do. -/
def hashable : Value → Bool
  | list _ | dict _ => false
  | tuple xs => allHashable xs
  | record c fs => c.frozen && entriesHashable fs
  | _ => true

/-- Every value of a list is hashable. -/
def allHashable : List Value → Bool
  | [] => true
  | x :: xs => hashable x && allHashable xs

/-- Every value of a list of entries is hashable. -/
def entriesHashable : List (String × Value) → Bool
  | [] => true
  | (_, x) :: es => hashable x && entriesHashable es

end

mutual

/-- The class of the first part of a value that cannot be hashed, in the order a hash visits
the parts; none for a hashable value. -/
def unhashablePart : Value → Option String
  | list _ => some "list"
  | dict _ => some "dict"
  | tuple xs => firstUnhashable xs
  | record c fs => if c.frozen then firstUnhashableEntry fs else some c.name
  | _ => Option.none

/-- The class of the first part of some values that cannot be hashed. -/
def firstUnhashable : List Value → Option String
  | [] => Option.none
  | x :: xs => (unhashablePart x).orElse fun _ => firstUnhashable xs

/-- The class of the first part of some entries' values that cannot be hashed. -/
def firstUnhashableEntry : List (String × Value) → Option String
  | [] => Option.none
  | (_, x) :: es => (unhashablePart x).orElse fun _ => firstUnhashableEntry es

end

end Value

end Storefront
