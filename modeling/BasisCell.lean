import BasisCell.Lib.Table
import BasisCell.Lib.Prog
import BasisCell.Lib.Pool
import BasisCell.Lib.Product
import BasisCell.Lib.Dyadic
import BasisCell.Lib.Fallible
import BasisCell.Lib.Faults
import BasisCell.Lib.Run
import BasisCell.Ipv4
import BasisCell.Gobgp
import BasisCell.Proto
import BasisCell.Controller.Rows
import BasisCell.Controller.Db
import BasisCell.Controller.Scheduler
import BasisCell.Controller.Config
import BasisCell.Controller.Calls
import BasisCell.Controller.Shared
import BasisCell.Controller.Handlers
import BasisCell.Controller.System
import BasisCell.Controller.Acks
import BasisCell.Controller.Effects
import BasisCell.Controller.Capacity
import BasisCell.Controller.Teardown
import BasisCell.Controller.Reconcile
import BasisCell.Controller.Discipline
import BasisCell.Controller.Stages
import BasisCell.Controller.Networks
import BasisCell.Controller.Addresses
import BasisCell.Controller.Clusters
import BasisCell.Controller.Authority
import BasisCell.Controller.Outbox
import BasisCell.Controller.Dispatch
import BasisCell.Agent.Host
import BasisCell.Agent.Storage
import BasisCell.Agent.Handlers
import BasisCell.Agent.Discipline
import BasisCell.Agent.Effects
import BasisCell.Agent.Teardown
import BasisCell.Agent.Idempotence
import BasisCell.Agent.Race
import BasisCell.Controller.External
import BasisCell.Controller.Tenants
import BasisCell.Controller.Ingress
import BasisCell.Controller.Placement
import BasisCell.Agent.Network
import BasisCell.Agent.NetEffects
import BasisCell.Controller.Election
import BasisCell.Controller.Streams
import BasisCell.Controller.Health
import BasisCell.Controller.Creates
import BasisCell.Controller.Membership
import BasisCell.Controller.Leaks
import BasisCell.Controller.Names
import BasisCell.Controller.Replies
import BasisCell.Controller.Rivals
import BasisCell.Controller.Enrol
import BasisCell.Controller.Confirmations
import BasisCell.Agent.Sections
import BasisCell.Agent.Node
import BasisCell.Agent.Commands
import BasisCell.Agent.Acknowledge
import BasisCell.Fleet.Responders
import BasisCell.Agent.Router
import BasisCell.Agent.Convergence
import BasisCell.Controller.Drains
import BasisCell.Controller.Ledger
import BasisCell.Agent.Images
import BasisCell.Agent.Sweep
import BasisCell.Agent.Cache
import BasisCell.Controller.Devices
import BasisCell.Controller.Scheduling
import BasisCell.Controller.Gate
import BasisCell.Controller.Spread
import BasisCell.Controller.Ranges
import BasisCell.Gobgp.Learned
import BasisCell.Agent.Attach
import BasisCell.Agent.Orphans
import BasisCell.Capi.Conditions
import BasisCell.Agent.Restart
