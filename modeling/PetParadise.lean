import PetParadise.Store.Table
import PetParadise.Store.References
import PetParadise.Store.FreshKeys
import PetParadise.Store.Prog
import PetParadise.Store.Runs
import PetParadise.Store.TwoRuns
import PetParadise.Store.Pool
import PetParadise.Store.Sums
import PetParadise.Store.Lists
import PetParadise.Store.Like
import PetParadise.Store.Matching
import PetParadise.Store.Purge
import PetParadise.Store.Serial
import PetParadise.Store.Audit
import PetParadise.Store.Archive
import PetParadise.Store.AllOrNothing
import PetParadise.Store.Locality
import PetParadise.Store.Rely
import PetParadise.Store.Simulation
import PetParadise.Calendar.Occupancy
import PetParadise.Calendar.Civil
import PetParadise.Calendar.DateText
import PetParadise.Db.Records
import PetParadise.Db.Casing
import PetParadise.Db.Params
import PetParadise.Db.Statements
import PetParadise.Web.Response
import PetParadise.Db.StatementsTheorems
import PetParadise.Accounts.Ability
import PetParadise.Hotel.Rooms
import PetParadise.Accounts.Users
import PetParadise.Hotel.Bookings
import PetParadise.Hotel.BookingsTheorems
import PetParadise.Hotel.AvailabilityTheorems
import PetParadise.Hotel.ConcurrentBookings
import PetParadise.Chat.Chats
import PetParadise.Chat.Windows
import PetParadise.Accounts.UsersTheorems
import PetParadise.Chat.LiveChat
import PetParadise.Chat.BroadcastTheorems
import PetParadise.Chat.ChatListTheorems
import PetParadise.Shop.Products
import PetParadise.Shop.Search
import PetParadise.Shop.Bills
import PetParadise.Shop.Carts
import PetParadise.Shop.Momo
import PetParadise.Shop.SignatureTheorems
import PetParadise.Shop.CheckoutTheorems
import PetParadise.Shop.CheckoutFaults
import PetParadise.Shop.AbstractShop
import PetParadise.App.Routes
import PetParadise.Shop.ConcurrentCheckout
import PetParadise.App.Pages
import PetParadise.App.RoutesTheorems
import PetParadise.App.OwnRows
import PetParadise.App.TwoVisits
import PetParadise.App.CartPrivacyTheorems
import PetParadise.App.BookingPagesTheorems
import PetParadise.App.ConfidentialTheorems
import PetParadise.App.ReferenceTheorems
import PetParadise.App.PrivilegeTheorems
import PetParadise.App.PaymentTheorems
import PetParadise.App.CallbackTheorems
import PetParadise.App.CapacityTheorems
import PetParadise.App.IsolationTheorems
import PetParadise.App.MessageTheorems
import PetParadise.App.LiveChatTheorems
import PetParadise.App.ChatOwnerTheorems
import PetParadise.App.LedgerTheorems
import PetParadise.App.HistoryTheorems
import PetParadise.App.RepeatedCheckoutTheorems
import PetParadise.App.AccountTheorems
import PetParadise.App.BulkAccountTheorems
import PetParadise.App.ImportTheorems
import PetParadise.App.RemovalTheorems
import PetParadise.App.StockTheorems
import PetParadise.App.CartLimitTheorems
import PetParadise.App.QuantityTheorems
import PetParadise.App.TotalsTheorems
import PetParadise.App.ConcurrentQuantity
import PetParadise.App.ShopRefinement
import PetParadise.App.MomoProtocol
import PetParadise.App.LiveSite
import PetParadise.App.RequestPool
import PetParadise.App.RecordsTheorems
import PetParadise.App.FailureTheorems
import PetParadise.App.Departments
import PetParadise.App.EmailTheorems
import PetParadise.App.ShopSeparation
import PetParadise.App.InterleavedCarts
